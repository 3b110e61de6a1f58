import ApiSuite.Http.Exchange
import ApiSuite.Proofs.Build
import ApiSuite.Proofs.RulePattern
import ApiSuite.Proofs.SessionRun
import ApiSuite.Proofs.Utf8

/-! # Headers that can be sent

A header can be sent when the bytes of its name are those of a token and none of its value is a
control other than a tab. A request whose URL cannot be read, or that has another header, is refused
before the wire is asked, by the first such header in the order of sending. So no line break gets
from a variable into what is sent.
-/
namespace ApiSuite

open Text

theorem Text.forall_mem_encode_iff {P : UInt8 → Prop} {text : String} :
    (∀ b ∈ encode text, P b) ↔ ∀ c ∈ text.toList, ∀ b ∈ String.utf8EncodeChar c, P b := by
  simp only [encode, List.mem_flatMap]
  constructor
  · exact fun h c hc b hb => h b ⟨c, hc, hb⟩
  · rintro h b ⟨c, hc, hb⟩
    exact h c hc b hb

theorem Text.length_encode_of_ascii {text : String} (h : ∀ c ∈ text.toList, c.toNat < 0x80) :
    (encode text).length = text.length := by
  have hbytes : encode text = text.toList.map fun c => UInt8.ofNat c.toNat := by
    rw [encode, List.map_eq_flatMap]
    exact List.flatMap_congr fun c hc => utf8EncodeChar_of_lt (h c hc)
  rw [hbytes, List.length_map, String.length_toList]

namespace Http

def tokenBytes : List UInt8 :=
  encode ("!#$%&'*+-.^_\x60|~0123456789" ++ "ABCDEFGHIJKLMNOPQRSTUVWXYZ" ++
    "abcdefghijklmnopqrstuvwxyz")

structure IsToken (name : String) : Prop where
  nonempty : name ≠ ""
  short : (encode name).length ≤ 65535
  bytes : ∀ b ∈ encode name, b ∈ tokenBytes

/-- No control stands in the value, apart from tabs. -/
def IsFieldText (value : String) : Prop :=
  ∀ b ∈ encode value, b = 0x09 ∨ 0x20 ≤ b.toNat ∧ b ≠ 0x7F

/-- A header of this name and value goes on the wire as it is. -/
def Sendable (h : String × String) : Prop := IsToken h.1 ∧ IsFieldText h.2

theorem isTokenChar_eq_contains :
    ∀ n < 0x80, isTokenChar (Char.ofNat n) = tokenBytes.contains (UInt8.ofNat n) := by
  decide +kernel

theorem lt_of_mem_tokenBytes : ∀ b ∈ tokenBytes, b.toNat < 0x80 := by
  decide +kernel

theorem lt_of_isTokenChar {c : Char} (h : isTokenChar c = true) : c.toNat < 0x80 := by
  rw [isTokenChar, Bool.or_eq_true] at h
  rcases h with h | h
  · have hrange := Capture.isNameChar_range (c := c) (by simp [Capture.isNameChar, h])
    omega
  · have hall : ∀ d ∈ ['!', '#', '$', '%', '&', '\'', '*', '+', '-', '.', '^', '_', '\x60', '|',
        '~'], d.toNat < 0x80 := by simp
    exact hall c (List.contains_iff_mem.1 h)

theorem isTokenChar_iff {c : Char} :
    isTokenChar c = true ↔ ∀ b ∈ String.utf8EncodeChar c, b ∈ tokenBytes := by
  by_cases hc : c.toNat < 0x80
  · have htable := isTokenChar_eq_contains c.toNat hc
    rw [Char.ofNat_toNat] at htable
    rw [htable, utf8EncodeChar_of_lt hc, List.contains_iff_mem, List.forall_mem_singleton]
  · refine iff_of_false (fun h => hc (lt_of_isTokenChar h)) fun h => ?_
    have hspelling := spelling_utf8EncodeChar hc
    cases hbytes : String.utf8EncodeChar c with
    | nil =>
      rw [hbytes] at hspelling
      cases hspelling
    | cons b rest =>
      rw [hbytes] at h hspelling
      have hlow := lt_of_mem_tokenBytes b (h b List.mem_cons_self)
      have hhigh := hspelling.le_of_mem (b := b) List.mem_cons_self
      omega

theorem isHeaderName_iff {name : String} : isHeaderName name = true ↔ IsToken name := by
  have hchars : name.toList.all isTokenChar = true ↔ ∀ b ∈ encode name, b ∈ tokenBytes := by
    rw [List.all_eq_true, forall_mem_encode_iff]
    exact forall₂_congr fun c _ => isTokenChar_iff
  have hlength : name.toList.all isTokenChar = true → (encode name).length = name.length :=
    fun h => length_encode_of_ascii fun c hc => lt_of_isTokenChar (List.all_eq_true.1 h c hc)
  have hempty : (!name.isEmpty) = true ↔ name ≠ "" := by simp
  rw [isHeaderName, Bool.and_eq_true, Bool.and_eq_true, decide_eq_true_eq, hempty]
  constructor
  · rintro ⟨⟨htoken, hne⟩, hshort⟩
    exact ⟨hne, by rwa [hlength htoken], hchars.1 htoken⟩
  · rintro ⟨hne, hshort, hbytes⟩
    have htoken := hchars.2 hbytes
    exact ⟨⟨htoken, hne⟩, by rwa [hlength htoken] at hshort⟩

theorem isFieldChar_eq : ∀ n < 0x80,
    (Char.ofNat n == '\t' || (0x20 ≤ (Char.ofNat n).toNat && (Char.ofNat n).toNat != 0x7F)) =
      decide (UInt8.ofNat n = 0x09 ∨ 0x20 ≤ (UInt8.ofNat n).toNat ∧ UInt8.ofNat n ≠ 0x7F) := by
  decide +kernel

theorem isHeaderValue_iff {value : String} : isHeaderValue value = true ↔ IsFieldText value := by
  rw [isHeaderValue, IsFieldText, List.all_eq_true, forall_mem_encode_iff]
  refine forall₂_congr fun c _ => ?_
  by_cases hc : c.toNat < 0x80
  · have htable := isFieldChar_eq c.toNat hc
    rw [Char.ofNat_toNat] at htable
    rw [htable, decide_eq_true_eq, utf8EncodeChar_of_lt hc, List.forall_mem_singleton]
  · refine iff_of_true ?_ fun b hb => .inr ?_
    · have hlow : 0x20 ≤ c.toNat := by omega
      have hne : c.toNat ≠ 0x7F := by omega
      simp [hlow, hne]
    · have hhigh := (spelling_utf8EncodeChar hc).le_of_mem hb
      refine ⟨by omega, ?_⟩
      rintro rfl
      exact absurd hhigh (by decide)

/-- What is said of a header that cannot be sent. -/
def Flaw (h : String × String) (problem : String) : Prop :=
  ¬IsToken h.1 ∧ problem = "invalid HTTP header name" ∨
    IsToken h.1 ∧ ¬IsFieldText h.2 ∧ problem = "failed to parse header value"

theorem headerProblem?_eq_some_iff {h : String × String} {problem : String} :
    headerProblem? h.1 h.2 = some problem ↔ Flaw h problem := by
  unfold headerProblem? Flaw
  rw [← isHeaderName_iff, ← isHeaderValue_iff]
  cases isHeaderName h.1 <;> cases isHeaderValue h.2 <;> simp [eq_comm]

theorem headerProblem?_eq_none_iff {h : String × String} :
    headerProblem? h.1 h.2 = none ↔ Sendable h := by
  unfold headerProblem? Sendable
  rw [← isHeaderName_iff, ← isHeaderValue_iff]
  cases isHeaderName h.1 <;> cases isHeaderValue h.2 <;> simp

theorem exists_flaw_iff {h : String × String} : (∃ problem, Flaw h problem) ↔ ¬Sendable h := by
  rw [← headerProblem?_eq_none_iff, ← ne_eq, Option.ne_none_iff_exists']
  exact exists_congr fun problem => headerProblem?_eq_some_iff.symm

/-- A value with a line break or a null character cannot be sent. -/
theorem not_isFieldText_of_mem {value : String} {c : Char} (hc : c ∈ value.toList)
    (hbreak : c ∈ ['\r', '\n', '\x00']) : ¬IsFieldText value := by
  intro h
  rw [← isHeaderValue_iff, isHeaderValue, List.all_eq_true] at h
  have hall : ∀ d ∈ ['\r', '\n', '\x00'],
      (d == '\t' || (0x20 ≤ d.toNat && d.toNat != 0x7F)) = false := by simp
  exact absurd (h c hc) (by rw [hall c hbreak]; decide)

end Http

open Http

/-- The error by which a request is refused before it is sent: its URL cannot be read, or else some
header is the first that cannot be sent. -/
inductive Request.RefusedBy (r : Request) : RequestError → Prop
  | url {e : UrlError} (h : Url.parse r.url = .error e) : r.RefusedBy (.invalidUrl e.message)
  | header {url : Url} {front back : List (String × String)} {h : String × String}
    {problem : String} (hurl : Url.parse r.url = .ok url) (hsplit : r.headers = front ++ h :: back)
    (hfront : ∀ g ∈ front, Sendable g) (hflaw : Flaw h problem) :
    r.RefusedBy (.protocol ("header '" ++ h.1 ++ "': " ++ problem))

namespace Exchange

theorem headerError?_eq_some_iff {headers : List (String × String)} {e : RequestError} :
    headerError? headers = some e ↔
      ∃ front h back problem, headers = front ++ h :: back ∧ (∀ g ∈ front, Sendable g) ∧
        Flaw h problem ∧ e = .protocol ("header '" ++ h.1 ++ "': " ++ problem) := by
  rw [headerError?, List.findSome?_eq_some_iff]
  constructor
  · rintro ⟨front, h, back, hsplit, hh, hfront⟩
    obtain ⟨problem, hproblem, rfl⟩ := Option.map_eq_some_iff.1 hh
    refine ⟨front, h, back, problem, hsplit, fun g hg => ?_, ?_, rfl⟩
    · exact headerProblem?_eq_none_iff.1 (Option.map_eq_none_iff.1 (hfront g hg))
    · exact headerProblem?_eq_some_iff.1 hproblem
  · rintro ⟨front, h, back, problem, hsplit, hfront, hflaw, rfl⟩
    refine ⟨front, h, back, hsplit, ?_, fun g hg => ?_⟩
    · rw [headerProblem?_eq_some_iff.2 hflaw]
      rfl
    · rw [headerProblem?_eq_none_iff.2 (hfront g hg)]
      rfl

theorem headerError?_eq_none_iff {headers : List (String × String)} :
    headerError? headers = none ↔ ∀ h ∈ headers, Sendable h := by
  rw [headerError?, List.findSome?_eq_none_iff]
  exact forall₂_congr fun h _ => Option.map_eq_none_iff.trans headerProblem?_eq_none_iff

theorem check_eq_error_of_refusedBy {r : Request} {e : RequestError} (h : r.RefusedBy e) :
    check r = .error e := by
  cases h with
  | url h => rw [check, h]
  | header hurl hsplit hfront hflaw =>
    have herror := headerError?_eq_some_iff.2 ⟨_, _, _, _, hsplit, hfront, hflaw, rfl⟩
    rw [check, hurl]
    simp only [herror]

/-- A request is refused this way exactly when not both its URL and all its headers will do. -/
theorem exists_refusedBy_iff {r : Request} :
    (∃ e, r.RefusedBy e) ↔
      ¬((∃ url, Url.parse r.url = .ok url) ∧ ∀ h ∈ r.headers, Sendable h) := by
  constructor
  · rintro ⟨e, h⟩ ⟨⟨url, hurl⟩, hall⟩
    cases h with
    | url h =>
      rw [hurl] at h
      cases h
    | header _ hsplit _ hflaw =>
      exact exists_flaw_iff.1 ⟨_, hflaw⟩ (hall _ (by simp [hsplit]))
  · intro h
    cases hurl : Url.parse r.url with
    | error e => exact ⟨_, .url hurl⟩
    | ok url =>
      cases herror : headerError? r.headers with
      | none => exact absurd ⟨⟨url, hurl⟩, headerError?_eq_none_iff.1 herror⟩ h
      | some e =>
        obtain ⟨front, header, back, problem, hsplit, hfront, hflaw, rfl⟩ :=
          headerError?_eq_some_iff.1 herror
        exact ⟨_, .header hurl hsplit hfront hflaw⟩

variable {σ : Type} (wire : Wire σ) (execution : Execution)

theorem transport_of_refusedBy {r : Request} {e : RequestError} (h : r.RefusedBy e) (state : σ) :
    transport wire execution state r = (state, .error e) := by
  rw [transport, check_eq_error_of_refusedBy h]

/-- A step that would send a header value with a line break or a null character sends nothing. -/
theorem remote_perform_of_break {s : Session σ} (hs : s.transport = transport wire execution)
    (now : SessionState σ) {step : Session.Step} {t : Template} (ht : step.template? = some t)
    {h : String × String} (hh : h ∈ t.headers ++ Headers.novel t.headers s.defaultHeaders)
    {value : String} (hvalue : (now.store.substitute h.2).outcome = .ok value) {c : Char}
    (hc : c ∈ value.toList) (hbreak : c ∈ ['\r', '\n', '\x00']) :
    (s.perform now step).remote = now.remote := by
  rw [s.remote_perform]
  cases hrequest : s.request? now.store step with
  | none => rfl
  | some r =>
    let b := s.builder now.store
    have hbuild : (b.build t).outcome = .ok r := s.build_of_request? ht hrequest
    have hpass := b.policy_of_outcome_build_ok t hbuild
    have hsent : h.2 ∈ b.sentTexts t := b.mem_sentTexts_of_mem_allHeaders t hh
    have hfilled : b.store.filled h.2 = value :=
      Except.ok.inj ((b.outcome_substitute_of_sent t hpass hsent).symm.trans hvalue)
    have hmem : (h.1, value) ∈ r.headers := by
      rw [← b.filledRequest_of_outcome_build t hbuild, ← hfilled]
      exact List.mem_map_of_mem hh
    obtain ⟨e, he⟩ : ∃ e, r.RefusedBy e := by
      refine exists_refusedBy_iff.2 fun ⟨_, hall⟩ => ?_
      exact not_isFieldText_of_mem hc hbreak (hall _ hmem).2
    change (s.transport now.remote r).1 = now.remote
    rw [hs, transport_of_refusedBy wire execution he]

/-- A request whose URL cannot be read or that has a header which cannot be sent is refused with the
error of the URL or of the first such header, and nothing goes on the wire. So a session sends
nothing in place of a template that has a header with a line break or a null character in what is
substituted for its value. -/
theorem unsendable_never_sent :
    (∀ (r : Request) (e : RequestError), r.RefusedBy e →
      ∀ state, transport wire execution state r = (state, .error e)) ∧
    (∀ r : Request, (∃ e, r.RefusedBy e) ↔
      ¬((∃ url, Url.parse r.url = .ok url) ∧ ∀ h ∈ r.headers, Sendable h)) ∧
    ∀ s : Session σ, s.transport = transport wire execution →
      ∀ (now : SessionState σ) (step : Session.Step) (t : Template), step.template? = some t →
        ∀ h ∈ t.headers ++ Headers.novel t.headers s.defaultHeaders, ∀ value,
          (now.store.substitute h.2).outcome = .ok value →
            (∃ c ∈ value.toList, c ∈ ['\r', '\n', '\x00']) →
              (s.perform now step).remote = now.remote := by
  refine ⟨fun r e h state => transport_of_refusedBy wire execution h state,
    fun r => exists_refusedBy_iff, fun s hs now step t ht h hh value hvalue ⟨c, hc, hbreak⟩ => ?_⟩
  exact remote_perform_of_break wire execution hs now ht hh hvalue hc hbreak

/-- The first of two headers that cannot be sent is named, and a captured line break stays where it
is. -/
theorem captured_break_never_sent :
    let wire : Wire (List WireRequest) := fun sent m => (sent ++ [m], .error .timeout)
    let r : Request :=
      ⟨.get, "http://[::1]:9/", [("X-Ok", "\t"), ("X-Bad", "a\nb"), ("bad name", "")], none⟩
    let s : Session (List WireRequest) :=
      ⟨some "http://[::1]:9", [("X-Token", "\x7b\x7btoken\x7d\x7d")], transport wire .default⟩
    let now : SessionState (List WireRequest) :=
      ⟨(Store.new .fail).set "token" "t\r\nX-Admin: 1", [], []⟩
    transport wire .default [] r =
        ([], .error (.protocol "header 'X-Bad': failed to parse header value")) ∧
      (s.perform now (.send (.new .get "/events"))).remote = [] := by
  intro wire r s now
  obtain ⟨hrefused, -, hsession⟩ := unsendable_never_sent wire .default
  constructor
  · have hparse : (Url.parse r.url).isOk = true := by decide +kernel
    cases hurl : Url.parse r.url with
    | error e =>
      rw [hurl] at hparse
      cases hparse
    | ok url =>
      have hok : Sendable ("X-Ok", "\t") := headerProblem?_eq_none_iff.1 (by decide)
      have hflaw : Flaw ("X-Bad", "a\nb") "failed to parse header value" :=
        headerProblem?_eq_some_iff.1 (by decide)
      have hsplit : r.headers = [("X-Ok", "\t")] ++ ("X-Bad", "a\nb") :: [("bad name", "")] := rfl
      exact hrefused r _ (.header hurl hsplit (by simpa using hok) hflaw) []
  · refine hsession s rfl now _ _ rfl _ (List.mem_singleton_self _) "t\r\nX-Admin: 1" ?_ ?_
    · have hnone : now.store.unbound (placeholders "\x7b\x7btoken\x7d\x7d") = [] := by
        decide +kernel
      rw [Store.substitute_eq, now.store.pass_of_unbound_eq_nil hnone]
      exact congrArg Except.ok (by decide +kernel)
    · exact ⟨'\r', by decide, by decide⟩

end Exchange

end ApiSuite
