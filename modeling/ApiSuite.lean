import ApiSuite.Text.Basic
import ApiSuite.Text.Utf8
import ApiSuite.Binary64.Basic
import ApiSuite.Binary64.Shortest
import ApiSuite.Text.Quoted
import ApiSuite.Json.Printer
import ApiSuite.Json.Reader
import ApiSuite.Json.Skip
import ApiSuite.Json.Decoder
import ApiSuite.Binding
import ApiSuite.Store
import ApiSuite.Store.Handles
import ApiSuite.Store.Operation
import ApiSuite.Warning
import ApiSuite.Placeholder
import ApiSuite.Substitution
import ApiSuite.Http.Header
import ApiSuite.Http.Method
import ApiSuite.Http.Template
import ApiSuite.Http.Request
import ApiSuite.Http.Response
import ApiSuite.RequestBuilder
import ApiSuite.JsonPath
import ApiSuite.Capture
import ApiSuite.EnvironmentFile
import ApiSuite.Url
import ApiSuite.Settings
import ApiSuite.Files.Tree
import ApiSuite.Fixture.User
import ApiSuite.Http.Loopback
import ApiSuite.Main
import ApiSuite.Resolve
import ApiSuite.Proofs.Layout
import ApiSuite.Proofs.SubstitutionPass
import ApiSuite.Proofs.Substitution
import ApiSuite.Proofs.JsonStrings
import ApiSuite.Proofs.DefaultHeaders
import ApiSuite.Proofs.BuildPass
import ApiSuite.Proofs.Build
import ApiSuite.Proofs.MissingVariables
import ApiSuite.Proofs.JsonBody
import ApiSuite.Proofs.SessionRun
import ApiSuite.Proofs.Insertion
import ApiSuite.Proofs.CapturedValues
import ApiSuite.Proofs.EnvironmentSeed
import ApiSuite.Proofs.PathLanguage
import ApiSuite.Proofs.Descent
import ApiSuite.Proofs.FailedCalls
import ApiSuite.Proofs.HostCharacters
import ApiSuite.Proofs.Authority
import ApiSuite.Proofs.ServerUrl
import ApiSuite.Proofs.Influence
import ApiSuite.Proofs.SharedStores
import ApiSuite.Proofs.DefaultSettings
import ApiSuite.Proofs.ResolveRun
import ApiSuite.Proofs.Navigation
import ApiSuite.Proofs.CallBodies
import ApiSuite.Proofs.FlatBodies
import ApiSuite.Proofs.RulePattern
import ApiSuite.Proofs.CaptureRules
import ApiSuite.Proofs.CaptureRuns
import ApiSuite.Proofs.ExportedLayout
import ApiSuite.Proofs.CallResults
import ApiSuite.Proofs.WrittenValues
import ApiSuite.Proofs.LoadedSettings
import ApiSuite.Proofs.OverriddenSettings
import ApiSuite.Proofs.HeaderSpellings
import ApiSuite.Proofs.FailureKinds
import ApiSuite.Proofs.SendableHeaders
import ApiSuite.Proofs.Numerals
import ApiSuite.Proofs.SkippedValues
import ApiSuite.Proofs.TextDecoding
import ApiSuite.Proofs.RecordRoundTrip
import ApiSuite.Proofs.TemplateSteps
import ApiSuite.Proofs.EnvironmentSearch
