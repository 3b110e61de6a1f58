import ApiSuite.Proofs.Authority
import ApiSuite.Proofs.Build
import ApiSuite.Proofs.LoadedSettings
import ApiSuite.Session

/-! # Requests to the configured server

A URL that starts with a slash is written behind the text of the server. What is read as the server
when the settings are validated is then read again, with more behind it. Blanks and controls at the
end of the text of the server do not count at first and count then, and a host that they end is
refused. Otherwise the request goes to the scheme, the host and the number of the server.
-/
namespace ApiSuite

namespace Url
open Text

/-- The characters of a text that count when a slash is written behind it. -/
def front (text : List Char) : List Char := (text.dropWhile isPadding).filter fun c => !isBreak c

/-- The characters at the end of a text that count only when something is written behind it. -/
def latent (text : List Char) : List Char := (text.rtakeWhile isPadding).filter fun c => !isBreak c

theorem isLow_of_mem_latent {text : List Char} {c : Char} (h : c ∈ latent text) : IsLow c := by
  have hpadding : isPadding c = true := List.mem_rtakeWhile_imp (List.mem_of_mem_filter h)
  have hle : c.toNat ≤ 0x20 := by simpa only [isPadding, decide_eq_true_eq] using hpadding
  exact hle

theorem isDelimiter_of_isLow {c : Char} (h : IsLow c) : isDelimiter .web c = false := by
  refine Bool.eq_false_iff.2 fun hc => ?_
  have hcases : ((c = '/' ∨ c = '?') ∨ c = '#') ∨ c = '\\' := by simpa [isDelimiter] using hc
  rcases hcases with ((rfl | rfl) | rfl) | rfl <;> exact absurd h (by decide)

theorem isPadding_of_isAlpha {c : Char} (h : c.isAlpha = true) : isPadding c = false := by
  have hcases : c.isUpper = true ∨ c.isLower = true := Bool.or_eq_true_iff.1 h
  have hle : 65 ≤ c.toNat := by
    rcases hcases with hupper | hlower
    · exact (of_decide_eq_true hupper).1
    · have hle : 97 ≤ c.toNat := of_decide_eq_true (Bool.and_eq_true_iff.1 hlower).1
      omega
  refine decide_eq_false fun hlow => ?_
  omega

theorem mem_of_mem_significant {text : List Char} {c : Char} (h : c ∈ significant text) :
    c ∈ text := by
  have hend : c ∈ (text.dropWhile isPadding).rdropWhile isPadding := List.mem_of_mem_filter h
  have hstart : c ∈ text.dropWhile isPadding := (List.rdropWhile_prefix _ _).subset hend
  exact (List.dropWhile_suffix _).subset hstart

theorem front_eq {text : List Char} (h : ∃ c ∈ text, isPadding c = false) :
    front text = significant text ++ latent text := by
  have hend : (text.dropWhile isPadding).rtakeWhile isPadding = text.rtakeWhile isPadding := by
    rw [← rtakeWhile_append_of_exists (exists_mem_dropWhile h), List.takeWhile_append_dropWhile]
  have hsplit : (text.dropWhile isPadding).rdropWhile isPadding ++ text.rtakeWhile isPadding =
      text.dropWhile isPadding := by
    rw [← hend]
    exact List.rdropWhile_append_rtakeWhile
  rw [front, ← hsplit, List.filter_append]
  rfl

theorem front_append {text behind : List Char} (h : ∃ c ∈ text, isPadding c = false)
    (hbehind : ∀ c ∈ behind, c = '/') : front (text ++ behind) = front text ++ behind := by
  have hkept : behind.filter (fun c => !isBreak c) = behind := by
    refine List.filter_eq_self.2 fun c hc => ?_
    rw [hbehind c hc]
    decide
  rw [front, dropWhile_append_of_exists behind h, List.filter_append, hkept, front]

theorem significant_append_slash {text : List Char} (h : ∃ c ∈ text, isPadding c = false)
    (behind : List Char) :
    ∃ more, significant (text ++ '/' :: behind) = front text ++ '/' :: more := by
  have hdrop : (behind.reverse ++ '/' :: (text.dropWhile isPadding).reverse).dropWhile isPadding =
      behind.reverse.dropWhile isPadding ++ '/' :: (text.dropWhile isPadding).reverse := by
    rw [List.dropWhile_append]
    split
    · rename_i hnil
      rw [List.isEmpty_iff.1 hnil]
      exact List.dropWhile_cons_of_neg (by decide)
    · rfl
  have hslash : isBreak '/' = false := by decide
  refine ⟨(behind.rdropWhile isPadding).filter fun c => !isBreak c, ?_⟩
  unfold significant
  rw [dropWhile_append_of_exists _ h, List.reverse_append, List.reverse_cons, List.append_assoc,
    List.singleton_append, hdrop, List.reverse_append, List.reverse_cons, List.reverse_reverse,
    List.append_assoc, List.singleton_append, List.filter_append,
    List.filter_cons_of_pos (by simp [hslash]), front, List.rdropWhile]

theorem slashes_eq_nil {stem slashes : List Char} (hslashes : ∀ c ∈ slashes, c = '/')
    (hlatent : latent (stem ++ slashes) ≠ []) : slashes = [] := by
  by_contra hne
  refine hlatent ?_
  have hlast : (stem ++ slashes).rtakeWhile isPadding = [] := by
    rw [List.rtakeWhile_eq_nil_iff]
    intro hl
    rw [List.getLast_append_of_ne_nil hl hne, hslashes _ (List.getLast_mem hne)]
    decide
  rw [latent, hlast]
  rfl

/-- With its final slashes a stem is what counts of the whole text, at once or only later. -/
theorem front_stem {stem slashes : List Char} (h : ∃ c ∈ stem, isPadding c = false)
    (hslashes : ∀ c ∈ slashes, c = '/') :
    front stem ++ slashes = significant (stem ++ slashes) ++ latent (stem ++ slashes) := by
  obtain ⟨c, hc, hp⟩ := h
  rw [← front_append ⟨c, hc, hp⟩ hslashes, front_eq ⟨c, List.mem_append_left _ hc, hp⟩]

namespace WebForm

def lead (f : WebForm) : List Char := f.name ++ ':' :: (f.slashes ++ f.authority)

theorem text_eq (f : WebForm) : f.text = f.lead ++ f.rest := by
  simp [text, lead]

theorem getLast?_lead (f : WebForm) : ∃ c, f.lead.getLast? = some c ∧ c ∈ f.authority := by
  obtain ⟨c, hc⟩ := Option.isSome_iff_exists.1 (List.getLast?_isSome.2 f.named)
  refine ⟨c, ?_, List.mem_of_getLast? hc⟩
  rw [lead, List.getLast?_append_cons, ← List.cons_append, List.getLast?_append, hc]
  rfl

/-- The slashes at the end of a URL stand behind its authority. -/
theorem exists_behind_lead {f : WebForm} {before slashes : List Char}
    (h : before ++ slashes = f.lead ++ f.rest) (hslashes : ∀ c ∈ slashes, c = '/') :
    ∃ behind, before = f.lead ++ behind ∧ f.rest = behind ++ slashes := by
  rcases List.append_eq_append_iff.1 h with ⟨more, hlead, hmore⟩ | hbehind
  · have hnil : more = [] := by
      by_contra hne
      obtain ⟨c, hc⟩ := Option.isSome_iff_exists.1 (List.getLast?_isSome.2 hne)
      obtain ⟨d, hd, hmem⟩ := f.getLast?_lead
      rw [hlead, List.getLast?_append, hc] at hd
      obtain rfl := Option.some.inj hd
      have hslash := hslashes c (hmore ▸ List.mem_append_left _ (List.mem_of_getLast? hc))
      have hin := f.inAuthority c hmem
      rw [hslash] at hin
      exact absurd hin (by decide)
    rw [hnil, List.append_nil] at hlead
    rw [hnil, List.nil_append] at hmore
    exact ⟨[], by rw [hlead, List.append_nil], hmore.symm⟩
  · exact hbehind

section

variable {f : WebForm} {stem slashes : List Char}
  (hf : significant (stem ++ slashes) = f.text) (hslashes : ∀ c ∈ slashes, c = '/')

include hf hslashes

theorem exists_mem_stem : ∃ c ∈ stem, isPadding c = false := by
  obtain ⟨c, more, hname⟩ : ∃ c more, f.name = c :: more := by
    refine List.exists_cons_of_ne_nil fun hnil => ?_
    have hletter := f.letter
    rw [hnil] at hletter
    cases hletter
  have hletter : c.isAlpha = true := by
    have h := f.letter
    rwa [hname] at h
  have hmem : c ∈ stem ++ slashes := by
    refine mem_of_mem_significant ?_
    rw [hf, text, hname]
    exact List.mem_cons_self
  refine ⟨c, (List.mem_append.1 hmem).resolve_right fun hc => ?_, isPadding_of_isAlpha hletter⟩
  rw [hslashes c hc] at hletter
  exact absurd hletter (by decide)

/-- The stem of a server runs at least up to the end of its authority. -/
theorem exists_front_stem (hcounts : f.rest ≠ [] ∨ latent (stem ++ slashes) = []) :
    ∃ behind, front stem = f.lead ++ behind ∧
      ∀ c, behind.head? = some c → isDelimiter .web c = true := by
  have hstem := front_stem (exists_mem_stem hf hslashes) hslashes
  rw [hf, f.text_eq] at hstem
  by_cases hlatent : latent (stem ++ slashes) = []
  · rw [hlatent, List.append_nil] at hstem
    obtain ⟨behind, hfront, hrest⟩ := exists_behind_lead hstem hslashes
    refine ⟨behind, hfront, fun c hc => f.behind c ?_⟩
    rw [hrest, List.head?_append, hc]
    rfl
  · have hnil : slashes = [] := slashes_eq_nil hslashes hlatent
    have hrest : f.rest ≠ [] := hcounts.resolve_right hlatent
    rw [hnil, List.append_nil] at hstem
    refine ⟨f.rest ++ latent (stem ++ slashes), ?_, fun c hc => f.behind c ?_⟩
    · rw [hstem, hnil, List.append_nil, List.append_assoc]
    · rwa [List.head?_append_of_ne_nil _ hrest] at hc

theorem exists_joined (hcounts : f.rest ≠ [] ∨ latent (stem ++ slashes) = [])
    (behind : List Char) :
    ∃ g : WebForm, significant (stem ++ '/' :: behind) = g.text ∧ g.scheme = f.scheme ∧
      g.authority = f.authority := by
  obtain ⟨more, hmore⟩ := significant_append_slash (exists_mem_stem hf hslashes) behind
  obtain ⟨kept, hfront, hkept⟩ := exists_front_stem hf hslashes hcounts
  have hbehind : ∀ c, (kept ++ '/' :: more).head? = some c → isDelimiter .web c = true := by
    intro c hc
    cases kept with
    | nil =>
      obtain rfl := Option.some.inj hc
      decide
    | cons d rest => exact hkept c hc
  refine ⟨{ f with rest := kept ++ '/' :: more, behind := hbehind }, ?_, rfl, rfl⟩
  rw [hmore, hfront, text_eq, List.append_assoc]
  rfl

/-- Without anything behind the authority, what has not counted so far ends the authority. -/
theorem exists_refused (hrest : f.rest = []) (hlatent : latent (stem ++ slashes) ≠ [])
    (behind : List Char) :
    ∃ g : WebForm, significant (stem ++ '/' :: behind) = g.text ∧
      ∃ c, IsLow c ∧ g.authority.getLast? = some c := by
  obtain ⟨more, hmore⟩ := significant_append_slash (exists_mem_stem hf hslashes) behind
  have hstem := front_stem (exists_mem_stem hf hslashes) hslashes
  have hnil : slashes = [] := slashes_eq_nil hslashes hlatent
  rw [hf, f.text_eq, hrest, hnil, List.append_nil, List.append_nil, List.append_nil] at hstem
  rw [hnil, List.append_nil] at hlatent
  obtain ⟨c, hc⟩ := Option.isSome_iff_exists.1 (List.getLast?_isSome.2 hlatent)
  have hlow : IsLow c := isLow_of_mem_latent (List.mem_of_getLast? hc)
  have hin : ∀ d ∈ f.authority ++ latent stem, isDelimiter .web d = false := by
    intro d hd
    rcases List.mem_append.1 hd with hd | hd
    · exact f.inAuthority d hd
    · exact isDelimiter_of_isLow (isLow_of_mem_latent hd)
  have hnamed : f.authority ++ latent stem ≠ [] := fun h => hlatent (List.append_eq_nil_iff.1 h).2
  have hbehind : ∀ c, ('/' :: more).head? = some c → isDelimiter .web c = true := by
    intro c hc
    obtain rfl := Option.some.inj hc
    decide
  refine ⟨{ f with
    authority := f.authority ++ latent stem
    rest := '/' :: more
    named := hnamed
    inAuthority := hin
    behind := hbehind }, ?_, c, hlow, ?_⟩
  · rw [hmore, hstem, text_eq]
    simp [lead]
  · rw [List.getLast?_append, hc]
    rfl

end

end WebForm

/-- The request is written behind the text of the server without its final slashes. -/
def Joins (server request : String) : Prop :=
  ∃ stem slashes behind, server.toList = stem ++ slashes ∧ (∀ c ∈ slashes, c = '/') ∧
    request.toList = stem ++ '/' :: behind

variable {server request : String} {u : Url}

theorem parse_of_joins (hjoins : Joins server request) (hserver : parse server = .ok u)
    (hhttp : u.isHttp = true) (hcounts : u.rest ≠ [] ∨ latent server.toList = []) :
    ∃ rest, parse request = .ok (u.withRest rest) := by
  obtain ⟨stem, slashes, behind, hstem, hslashes, hrequest⟩ := hjoins
  obtain ⟨f, hf⟩ := exists_webForm hserver hhttp
  obtain ⟨v, hbare, rfl⟩ := f.exists_bare hf hserver
  rw [hstem] at hf hcounts
  obtain ⟨g, hg, hscheme, hauthority⟩ := WebForm.exists_joined hf hslashes hcounts behind
  rw [← hrequest] at hg
  refine ⟨g.rest, ?_⟩
  rw [g.parse_eq hg, hscheme, hauthority, hbare]
  rfl

theorem parse_refused_of_joins (hjoins : Joins server request) (hserver : parse server = .ok u)
    (hhttp : u.isHttp = true) (hrest : u.rest = []) (hlatent : latent server.toList ≠ []) :
    ∃ e, parse request = .error e := by
  obtain ⟨stem, slashes, behind, hstem, hslashes, hrequest⟩ := hjoins
  obtain ⟨f, hf⟩ := exists_webForm hserver hhttp
  obtain ⟨v, -, rfl⟩ := f.exists_bare hf hserver
  rw [hstem] at hf hlatent
  obtain ⟨g, hg, c, hlow, hlast⟩ := WebForm.exists_refused hf hslashes hrest hlatent behind
  rw [← hrequest] at hg
  have hslant : '\\' ∉ g.authority := by
    intro hmem
    exact absurd (g.inAuthority _ hmem) (by decide)
  obtain ⟨e, he⟩ := bare_refused hlow hlast hslant
  refine ⟨e, ?_⟩
  rw [g.parse_eq hg, he]
  rfl

end Url

namespace Settings

theorem exists_server_of_validate {s : Settings} (h : s.validate = .ok ()) :
    ∃ server, Url.parse s.server = .ok server ∧ server.isHttp = true :=
  (validate_eq_ok_iff.1 h).2

/-- A request for a URL that starts with a slash is written behind the text of the server. -/
theorem joins_of_built {σ : Type} {s : Settings} {transport : Transport σ} {store : Store}
    {t : Template} {r : Request}
    (hstore : store.binding? "server" = none ∨ store.binding? "server" = some .null)
    (hslash : t.url.toList.head? = some '/') (hplain : placeholders t.url = [])
    (hbuilt : (((Session.ofSettings s transport).builder store).build t).outcome = .ok r) :
    Url.Joins s.server r.url := by
  let b := (Session.ofSettings s transport).builder store
  have hurl : r.url = b.complete t.url := by
    rw [← b.filledRequest_of_outcome_build t hbuilt]
    exact congrArg b.complete (store.filled_of_placeholders_eq_nil hplain)
  have hbase : b.relativeBase = some s.server := by
    have hbinding : b.store.binding? "server" = store.binding? "server" := rfl
    rw [RequestBuilder.relativeBase, hbinding]
    rcases hstore with h | h <;> rw [h] <;> rfl
  obtain ⟨stem, slashes, hsplit, hslashes, -, hcompleted⟩ :=
    (b.completed_complete t.url).joined _ hslash hbase
  obtain ⟨behind, hbehind⟩ := List.head?_eq_some_iff.1 hslash
  exact ⟨stem, slashes, behind, hsplit, hslashes, by rw [hurl, hcompleted, hbehind]⟩

/-- A request for a URL that starts with a slash goes to the scheme, the host and the number of a
valid server. It gives a URL just when something follows the authority of the server or no blank or
control but tabs and line breaks ends the text of the server. -/
theorem built_url_on_server {σ : Type} {s : Settings} {transport : Transport σ} {store : Store}
    {t : Template} {r : Request} (hvalid : s.validate = .ok ())
    (hstore : store.binding? "server" = none ∨ store.binding? "server" = some .null)
    (hslash : t.url.toList.head? = some '/') (hplain : placeholders t.url = [])
    (hbuilt : (((Session.ofSettings s transport).builder store).build t).outcome = .ok r) :
    ∃ server, Url.parse s.server = .ok server ∧
      ((∃ url, Url.parse r.url = .ok url) ↔
        server.rest ≠ [] ∨ Url.latent s.server.toList = []) ∧
      ∀ url, Url.parse r.url = .ok url →
        url.scheme = server.scheme ∧ url.host = server.host ∧
          url.portNumber = server.portNumber := by
  obtain ⟨server, hserver, hhttp⟩ := exists_server_of_validate hvalid
  have hjoins := joins_of_built hstore hslash hplain hbuilt
  have hparse : server.rest ≠ [] ∨ Url.latent s.server.toList = [] →
      ∃ rest, Url.parse r.url = .ok (server.withRest rest) :=
    Url.parse_of_joins hjoins hserver hhttp
  have hrefused : ¬(server.rest ≠ [] ∨ Url.latent s.server.toList = []) →
      ∃ e, Url.parse r.url = .error e := by
    intro hnot
    obtain ⟨hrest, hlatent⟩ := not_or.1 hnot
    exact Url.parse_refused_of_joins hjoins hserver hhttp (not_not.1 hrest) hlatent
  refine ⟨server, hserver, ⟨fun ⟨url, hurl⟩ => ?_, fun hcounts => ?_⟩, fun url hurl => ?_⟩
  · by_contra hnot
    obtain ⟨e, he⟩ := hrefused hnot
    rw [hurl] at he
    cases he
  · obtain ⟨rest, hrest⟩ := hparse hcounts
    exact ⟨_, hrest⟩
  · by_cases hcounts : server.rest ≠ [] ∨ Url.latent s.server.toList = []
    · obtain ⟨rest, hrest⟩ := hparse hcounts
      obtain rfl := Except.ok.inj (hurl.symm.trans hrest)
      exact ⟨rfl, rfl, rfl⟩
    · obtain ⟨e, he⟩ := hrefused hcounts
      rw [hurl] at he
      cases he

theorem validate_of_isOk {s : Settings} (h : s.validate.isOk = true) : s.validate = .ok () := by
  cases hvalid : s.validate with
  | error e =>
    rw [hvalid] at h
    cases h
  | ok => rfl

theorem built_url_on_address :
    let s : Settings := { Settings.default with server := "http://[::1]:8088/api/" }
    let b := (Session.ofSettings s Transport.prepared).builder (.new .leaveAsIs)
    ∃ r server url, (b.build (.new .get "/users")).outcome = .ok r ∧
      Url.parse s.server = .ok server ∧ Url.parse r.url = .ok url ∧
        url.scheme = server.scheme ∧ url.host = server.host ∧
          url.portNumber = server.portNumber := by
  intro s b
  have hvalid : s.validate = .ok () := validate_of_isOk (by decide +kernel)
  have hplain : placeholders "/users" = [] :=
    Store.placeholders_of_not_hasOpening (by decide)
  have hbuilt := b.outcome_build (.new .get "/users") nofun
  have hlatent : Url.latent s.server.toList = [] := by decide +kernel
  obtain ⟨server, hserver, hparse, hsame⟩ :=
    built_url_on_server hvalid (.inl rfl) (by decide) hplain hbuilt
  obtain ⟨url, hurl⟩ := hparse.2 (.inr hlatent)
  exact ⟨_, server, url, hbuilt, hserver, hurl, hsame url hurl⟩

/-- A server with a blank behind it is valid, but no URL that is written behind it can be read. -/
theorem blank_behind_server :
    let s : Settings := { Settings.default with server := "http://[::1]:8088 " }
    let b := (Session.ofSettings s Transport.prepared).builder (.new .leaveAsIs)
    s.validate = .ok () ∧ b.store.binding? "server" = none ∧ placeholders "/x" = [] ∧
      ∃ r, (b.build (.new .get "/x")).outcome = .ok r ∧ r.url = "http://[::1]:8088 /x" ∧
        ∃ e, Url.parse r.url = .error e := by
  intro s b
  have hvalid : s.validate = .ok () := validate_of_isOk (by decide +kernel)
  have hplain : placeholders "/x" = [] :=
    Store.placeholders_of_not_hasOpening (by decide)
  have hbuilt := b.outcome_build (.new .get "/x") nofun
  have hurl : (b.filledRequest (.new .get "/x")).url = "http://[::1]:8088 /x" := by
    decide +kernel
  refine ⟨hvalid, rfl, hplain, _, hbuilt, hurl, ?_⟩
  have hfailed : (Url.parse "http://[::1]:8088 /x").isOk = false := by decide +kernel
  rw [hurl]
  cases hparse : Url.parse "http://[::1]:8088 /x" with
  | error e => exact ⟨e, rfl⟩
  | ok url =>
    rw [hparse] at hfailed
    cases hfailed

end Settings

end ApiSuite
