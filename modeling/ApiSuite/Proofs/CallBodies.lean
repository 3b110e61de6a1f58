import ApiSuite.Proofs.Canonical
import ApiSuite.Proofs.FailedCalls
import ApiSuite.Proofs.Insertion
import ApiSuite.Proofs.JsonBody
import ApiSuite.Proofs.Navigation

/-! # What the bodies of calls say

A call that creates an event, registers a user or logs in hands over one request, or none when names
are unset and the policy is the failing one. The body of the request spells the body of its template
with every string substituted. The name of an event reaches it through a variable, which is filled
and not read again, so that any name arrives as it is. The fields of a user, and the address and the
password of a login, stand in the template themselves: they arrive as they are when the store leaves
all of their placeholders in place, and a placeholder of a bound variable among them is replaced.
-/
namespace ApiSuite

def Request.Spells (r : Request) (v : Json) : Prop :=
  ∃ text, r.body = some text ∧ Json.parse text = .ok v

/-- The body of the request is a text of a value that has this text in the field. -/
def Request.Carries (r : Request) (name text : String) : Prop :=
  ∃ v : Json, r.Spells v ∧ v.field? name = some (.str text)

theorem Request.Spells.unique {r : Request} {v w : Json} (hv : r.Spells v) (hw : r.Spells w) :
    v = w := by
  obtain ⟨text, hbody, hparse⟩ := hv
  obtain ⟨text', hbody', hparse'⟩ := hw
  obtain rfl := Option.some.inj (hbody.symm.trans hbody')
  exact Except.ok.inj (hparse.symm.trans hparse')

theorem Request.Carries.unique {r : Request} {name text other : String} (h : r.Carries name text)
    (h' : r.Carries name other) : text = other := by
  obtain ⟨v, hv, hfield⟩ := h
  obtain ⟨w, hw, hfield'⟩ := h'
  rw [hv.unique hw, hfield'] at hfield
  exact (Json.str.inj (Option.some.inj hfield)).symm

namespace Json

/-! ## Objects of texts -/

def ofTexts (fields : List (String × String)) : Json := .obj (fields.map fun f => (f.1, .str f.2))

variable {fields : List (String × String)}

theorem canonical_ofTexts (h : (fields.map Prod.fst).Pairwise (· < ·)) :
    (ofTexts fields).Canonical := by
  refine ⟨List.pairwise_map.2 (List.pairwise_map.1 h), canonicalFields_iff.2 fun e he => ?_⟩
  obtain ⟨f, -, rfl⟩ := List.mem_map.1 he
  trivial

theorem integral_ofTexts (fields : List (String × String)) : (ofTexts fields).Integral := by
  change IntegralFields (fields.map _)
  induction fields with
  | nil => trivial
  | cons f rest ih => exact ⟨trivial, ih⟩

theorem depth_ofTexts (fields : List (String × String)) : (ofTexts fields).depth = 1 := by
  have hleaves : depthFields (fields.map fun f => (f.1, .str f.2)) = 0 := by
    induction fields with
    | nil => rfl
    | cons f rest ih => exact (Nat.zero_max _).trans ih
  rw [ofTexts, depth, hleaves]

theorem strings_ofTexts (fields : List (String × String)) :
    (ofTexts fields).strings = fields.map Prod.snd := by
  change stringsOfFields (fields.map _) = _
  induction fields with
  | nil => rfl
  | cons f rest ih => exact congrArg (f.2 :: ·) ih

end Json

namespace Store

variable (s : Store)

/-- A text whose placeholders are all left in place. -/
theorem filled_eq_of_left {text : String}
    (h : ∀ name ∈ placeholders text, s.policy = .leaveAsIs ∧ s.contains name = false) :
    s.filled text = text := by
  have hnames : (Layout.ofText text.toList).names = placeholders text := Layout.names_ofPieces _
  have hleft : ∀ p ∈ (Layout.ofText text.toList).tail,
      s.replacement p.1 = Piece.braced p.1 := by
    intro p hp
    have hname : Piece.nameOf p.1 ∈ placeholders text := hnames ▸ List.mem_map_of_mem hp
    obtain ⟨hpolicy, hunset⟩ := h _ hname
    rw [contains_eq_isSome, Option.isSome_eq_false_iff, Option.isNone_iff_eq_none] at hunset
    rw [replacement, hunset, hpolicy]
    rfl
  have hfill : (Layout.ofText text.toList).fill s.replacement =
      (Layout.ofText text.toList).source := by
    refine congrArg _ (List.flatMap_congr fun p hp => ?_)
    rw [hleft p hp]
  rw [filled, hfill, Layout.source_ofText, String.ofList_toList]

theorem outcome_substitute_of_left {text : String}
    (h : ∀ name ∈ placeholders text, s.policy = .leaveAsIs ∧ s.contains name = false) :
    (s.substitute text).outcome = .ok text := by
  refine s.outcome_substitute_eq_ok_iff.2 ⟨fun hp => ?_, s.filled_eq_of_left h⟩
  refine s.unbound_eq_nil_iff.2 fun name hname => ?_
  rw [(h name hname).1] at hp
  cases hp

end Store

namespace RequestBuilder

variable (b : RequestBuilder) (t : Template)

theorem refused_of_outcome_build {e : VariableError} (h : (b.build t).outcome = .error e) :
    b.store.policy = .fail ∧ b.missing t ≠ [] := by
  refine Classical.not_imp.1 fun hpass => ?_
  rw [b.outcome_build t hpass] at h
  cases h

/-- A JSON body is sent as a text of its value with the strings filled, and nothing keeps one of
these from being substituted. -/
theorem spells_of_outcome_build {v : Json} {r : Request} (hbody : t.body = some (.json v))
    (hc : v.Canonical) (hi : v.Integral) (hd : v.depth ≤ Json.maxDepth)
    (h : (b.build t).outcome = .ok r) :
    r.Spells (v.mapStrings b.store.filled) ∧
      ∀ leaf ∈ v.strings, (b.store.substitute leaf).outcome = .ok (b.store.filled leaf) := by
  have hpass := b.policy_of_outcome_build_ok t h
  constructor
  · refine ⟨(v.mapStrings b.store.filled).render, ?_, Json.parse_render
      (Json.canonical_mapStrings v hc) (Json.integral_mapStrings v hi)
      (by rwa [Json.depth_mapStrings])⟩
    rw [← b.filledRequest_of_outcome_build t h]
    change b.filledBody t.body = _
    rw [hbody]
    rfl
  · intro leaf hleaf
    refine b.outcome_substitute_of_sent t hpass (b.mem_sentTexts_of_mem_bodyTexts t ?_)
    rwa [hbody]

theorem spells_ofTexts_of_outcome_build {fields : List (String × String)} {r : Request}
    (hbody : t.body = some (.json (Json.ofTexts fields)))
    (hkeys : (fields.map Prod.fst).Pairwise (· < ·)) (h : (b.build t).outcome = .ok r) :
    r.Spells ((Json.ofTexts fields).mapStrings b.store.filled) ∧
      ∀ leaf ∈ (Json.ofTexts fields).strings,
        (b.store.substitute leaf).outcome = .ok (b.store.filled leaf) :=
  b.spells_of_outcome_build t hbody (Json.canonical_ofTexts hkeys) (Json.integral_ofTexts fields)
    (by rw [Json.depth_ofTexts]; decide) h

end RequestBuilder

namespace User

/-- The user is the other one with each field substituted. -/
structure SubstitutedAs (store : Store) (u sent : User) : Prop where
  firstName : (store.substitute u.firstName).outcome = .ok sent.firstName
  lastName : (store.substitute u.lastName).outcome = .ok sent.lastName
  email : (store.substitute u.email).outcome = .ok sent.email
  phone : (store.substitute u.phone).outcome = .ok sent.phone
  password : (store.substitute u.password).outcome = .ok sent.password

variable (b : RequestBuilder) {r : Request}

theorem spells_registration (u : User) (h : (b.build u.registration).outcome = .ok r) :
    ∃ sent : User, r.Spells sent.body ∧ SubstitutedAs b.store u sent := by
  have hbody : u.registration.body = some (.json (Json.ofTexts [("email", u.email),
      ("first_name", u.firstName), ("last_name", u.lastName), ("password", u.password),
      ("phone", u.phone)])) := rfl
  have hkeys : ["email", "first_name", "last_name", "password", "phone"].Pairwise (· < ·) := by
    decide
  obtain ⟨hspells, hleaves⟩ := b.spells_ofTexts_of_outcome_build _ hbody hkeys h
  simp only [Json.strings_ofTexts, List.map_cons, List.map_nil, List.forall_mem_cons] at hleaves
  obtain ⟨hemail, hfirst, hlast, hpassword, hphone, -⟩ := hleaves
  exact ⟨⟨_, _, _, _, _⟩, hspells, hfirst, hlast, hemail, hphone, hpassword⟩

theorem spells_credentials {email password : String}
    (h : (b.build (credentials email password)).outcome = .ok r) :
    ∃ email' password', r.Spells (.obj [("email", .str email'), ("password", .str password')]) ∧
      (b.store.substitute email).outcome = .ok email' ∧
      (b.store.substitute password).outcome = .ok password' := by
  have hbody : (credentials email password).body =
      some (.json (Json.ofTexts [("email", email), ("password", password)])) := rfl
  have hkeys : ["email", "password"].Pairwise (· < ·) := by decide
  obtain ⟨hspells, hleaves⟩ := b.spells_ofTexts_of_outcome_build _ hbody hkeys h
  simp only [Json.strings_ofTexts, List.map_cons, List.map_nil, List.forall_mem_cons] at hleaves
  obtain ⟨hemail, hpassword, -⟩ := hleaves
  exact ⟨_, _, hspells, hemail, hpassword⟩

end User

/-- The name of an event comes out of its variable as it is. -/
theorem Event.spells_template (b : RequestBuilder) {r : Request} (e : Event)
    (hbound : b.store.binding? nameVariable = some (.text e.name))
    (h : (b.build e.template).outcome = .ok r) :
    r.Carries "name" e.name ∧
      ∃ doc, r.Spells doc ∧
        e.body.Leafwise (fun leaf text => (b.store.substitute leaf).outcome = .ok text) doc := by
  have hbody : e.template.body = some (.json (Json.ofTexts [("age_limit", e.ageLimit),
      ("event_end", e.finish), ("event_start", e.start), ("event_type", e.type),
      ("name", "" ++ "\x7b\x7b" ++ nameVariable ++ "\x7d\x7d"),
      ("organization_id", "\x7b\x7blast_org_id\x7d\x7d"),
      ("venue_id", "\x7b\x7blast_venue_id\x7d\x7d")])) := rfl
  have hkeys : ["age_limit", "event_end", "event_start", "event_type", "name", "organization_id",
      "venue_id"].Pairwise (· < ·) := by decide
  obtain ⟨hspells, hleaves⟩ := b.spells_ofTexts_of_outcome_build e.template hbody hkeys h
  refine ⟨⟨_, hspells, ?_⟩, _, hspells, Json.leafwise_mapStrings e.body hleaves⟩
  have hname := b.store.filled_hole_behind "" (by simp) (by decide)
    (List.all_eq_true.1 (by decide)) hbound
  change some (Json.str (b.store.filled _)) = _
  rw [hname]
  rfl

namespace Session

variable {σ : Type} (s : Session σ)

/-- What a call with this template leaves behind: nothing has been handed over, because the failing
policy refuses the template, or one request, which has the property. -/
inductive Delivers (now : SessionState σ) (t : Template) (P : Request → Prop) :
    SessionState σ → Prop
  | refused {next : SessionState σ} (hpolicy : now.store.policy = .fail)
    (hmissing : s.missing now.store t ≠ []) (hsent : next.sent = now.sent)
    (hremote : next.remote = now.remote) : Delivers now t P next
  | sent {next : SessionState σ} (r : Request) (h : P r) (hsent : next.sent = now.sent ++ [r])
    (hremote : next.remote = (s.transport now.remote r).1) : Delivers now t P next

/-- Once its request is built, a call hands it over, whatever comes back. -/
theorem exists_answered_sendAndRead {now : SessionState σ} {t : Template} {r : Request}
    (c : Capture) (h : ((s.builder now.store).build t).outcome = .ok r) :
    ∃ entries, (s.sendAndRead t c now).1 = s.answered now r entries := by
  rw [s.sendAndRead_eq_of_built c h]
  split
  · exact ⟨[], rfl⟩
  · split
    · exact ⟨[], rfl⟩
    · split
      · exact ⟨[], rfl⟩
      · exact ⟨_, rfl⟩

theorem delivers_sendAndRead {now : SessionState σ} {t : Template} {P : Request → Prop}
    (c : Capture) (h : ∀ r, ((s.builder now.store).build t).outcome = .ok r → P r) :
    s.Delivers now t P (s.sendAndRead t c now).1 := by
  cases hb : ((s.builder now.store).build t).outcome with
  | error e =>
    obtain ⟨hpolicy, hmissing⟩ := (s.builder now.store).refused_of_outcome_build t hb
    rw [s.sendAndRead_eq_of_refused c hb]
    exact .refused hpolicy hmissing rfl rfl
  | ok r =>
    obtain ⟨entries, hnext⟩ := s.exists_answered_sendAndRead c hb
    rw [hnext]
    exact .sent r (h r hb) rfl rfl

/-- The request that creates an event carries its name as it is, whatever characters and
placeholders the name has. Its other fields are substituted in the store in which the name has been
bound. -/
theorem created_event_keeps_name (storeKey : String) (e : Event) (now : SessionState σ) :
    let ready := { now with store := now.store.set Event.nameVariable e.name }
    s.Delivers ready e.template
      (fun r => r.Carries "name" e.name ∧
        ∃ doc, r.Spells doc ∧
          e.body.Leafwise (fun leaf text => (ready.store.substitute leaf).outcome = .ok text) doc)
      (Event.create s storeKey e now).1 := by
  intro ready
  have hbound : ready.store.binding? Event.nameVariable = some (.text e.name) := by
    change (now.store.set Event.nameVariable e.name).binding? Event.nameVariable = _
    rw [Store.set, Store.binding?_bind, if_pos rfl]
  exact s.delivers_sendAndRead _ fun r hr =>
    Event.spells_template (s.builder ready.store) e hbound hr

/-- The request that registers a user spells the user with the five fields substituted, and the one
that logs in the address and the password substituted. A text that has no placeholders, or only such
as are left in place, is substituted by itself. -/
theorem accounts_sent_substituted (now : SessionState σ) :
    (∀ u : User, s.Delivers now u.registration
      (fun r => ∃ sent : User, r.Spells sent.body ∧ User.SubstitutedAs now.store u sent)
      (User.register s u now).1) ∧
    (∀ email password tokenKey : String, s.Delivers now (User.credentials email password)
      (fun r => ∃ email' password' : String,
        r.Spells (.obj [("email", .str email'), ("password", .str password')]) ∧
        (now.store.substitute email).outcome = .ok email' ∧
        (now.store.substitute password).outcome = .ok password')
      (User.login s email password tokenKey now).1) ∧
    ∀ text, (∀ name ∈ placeholders text,
        now.store.policy = .leaveAsIs ∧ now.store.contains name = false) →
      (now.store.substitute text).outcome = .ok text := by
  let b := s.builder now.store
  refine ⟨fun u => s.delivers_sendAndRead _ fun r hr => User.spells_registration b u hr,
    fun email password tokenKey => s.delivers_sendAndRead _ fun r hr =>
      User.spells_credentials b hr,
    fun text => now.store.outcome_substitute_of_left⟩

/-- A password that is written like a placeholder of a bound variable does not reach the server,
neither when the user is registered nor at the login. -/
theorem password_placeholder_expands :
    let s : Session (List Reply) := ⟨none, [], Transport.prepared⟩
    let start : SessionState (List Reply) := ⟨(Store.new .leaveAsIs).set "pw" "1", [], []⟩
    let u : User := ⟨"Mike", "Surname", "mike@tari.com", "555", "\x7b\x7bpw\x7d\x7d"⟩
    (∃ r, (User.register s u start).1.sent = [r] ∧
      r.Carries "password" "1" ∧ ¬r.Carries "password" u.password) ∧
    ∃ r, (User.login s u.email u.password "token" start).1.sent = [r] ∧
      r.Carries "password" "1" ∧ ¬r.Carries "password" u.password := by
  intro s start u
  let b := s.builder start.store
  have hfilled : (start.store.substitute u.password).outcome = .ok "1" :=
    start.store.outcome_substitute_eq_ok_iff.2 ⟨nofun, by decide +kernel⟩
  have hlost : ∀ r : Request, r.Carries "password" "1" → ¬r.Carries "password" u.password :=
    fun r h h' => absurd (h.unique h') (by decide)
  constructor
  · have hr := b.outcome_build u.registration nofun
    obtain ⟨sent, hspells, hsent⟩ := User.spells_registration b u hr
    have hpassword : sent.password = "1" := Except.ok.inj (hsent.password.symm.trans hfilled)
    have hcarries : Request.Carries _ "password" "1" := ⟨_, hspells, hpassword ▸ rfl⟩
    obtain ⟨entries, hnext⟩ := s.exists_answered_sendAndRead
      ⟨User.identifierVariable, .json Event.identifierPath⟩ hr
    exact ⟨_, congrArg SessionState.sent hnext, hcarries, hlost _ hcarries⟩
  · have hr := b.outcome_build (User.credentials u.email u.password) nofun
    obtain ⟨email', password', hspells, -, hsent⟩ := User.spells_credentials b hr
    have hpassword : password' = "1" := Except.ok.inj (hsent.symm.trans hfilled)
    have hcarries : Request.Carries _ "password" "1" := ⟨_, hspells, hpassword ▸ rfl⟩
    obtain ⟨entries, hnext⟩ := s.exists_answered_sendAndRead ⟨"token", .json User.tokenPath⟩ hr
    exact ⟨_, congrArg SessionState.sent hnext, hcarries, hlost _ hcarries⟩

end Session

end ApiSuite
