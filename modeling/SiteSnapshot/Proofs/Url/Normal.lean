import Mathlib.Data.List.Basic
import SiteSnapshot.Proofs.Url.Schemes
import SiteSnapshot.Proofs.Url.Segments

/-!
# Normal form

A URL of the web is in **normal form** if each of its parts is written as it is read. Every
URL of the web that is read is in normal form (`normal_of_parse`), and resolving keeps that
(`normal_of_join`).
-/

namespace SiteSnapshot.Url

/-- Every part of the URL is written as it is read, the path as settled segments. -/
structure Normal (u : Url) : Prop where
  username : ∀ c ∈ u.username.toList, Percent.isPlain Percent.inUserInfo c = true
  password : ∀ c ∈ u.password.toList, Percent.isPlain Percent.inUserInfo c = true
  host : ∃ host text, u.host = some host ∧ Host.parseSpecial text = .ok host
  port : ∀ p, u.port = some p → p ≤ 65535 ∧ defaultPort u.scheme ≠ some p
  parts : ∃ parts, u.body = .segments parts ∧ parts ≠ [] ∧ ∀ s ∈ parts, IsSettled s
  query : ∀ q, u.query = some q → ∀ c ∈ q.toList, Percent.isPlain Percent.inSpecialQuery c = true
  fragment : ∀ f, u.fragment = some f → ∀ c ∈ f.toList, Percent.isPlain Percent.inFragment c = true

variable {text authority done path : List Char} {scheme : String} {base : Option Url} {b u : Url}

theorem Normal.isFixed_eq_false (hu : Normal u) : u.isFixed = false := by
  obtain ⟨parts, hbody, -⟩ := hu.parts
  rw [isFixed, hbody]

/-! ### Parts that are read -/

theorem isPlain_of_writtenQuery (h : IsWeb scheme) (query : List Char) :
    ∀ c ∈ (writtenQuery scheme query).toList, Percent.isPlain Percent.inSpecialQuery c = true := by
  intro c hc
  simp only [writtenQuery, h.1, if_true, String.toList_ofList] at hc
  exact Percent.isPlain_inSpecialQuery_of_mem_encode hc

theorem isPlain_of_writtenFragment (fragment : List Char) :
    ∀ c ∈ (writtenFragment fragment).toList, Percent.isPlain Percent.inFragment c = true := by
  intro c hc
  rw [writtenFragment, String.toList_ofList] at hc
  exact Percent.isPlain_inFragment_of_mem_encode hc

theorem isPlain_of_userOf (authority : List Char) :
    (∀ c ∈ (userOf authority).1.toList, Percent.isPlain Percent.inUserInfo c = true) ∧
      ∀ c ∈ (userOf authority).2.toList, Percent.isPlain Percent.inUserInfo c = true := by
  unfold userOf readUserInfo
  cases splitLastAt authority with
  | none => simp
  | some parts =>
    simp only [Option.map_some, Option.getD_some, String.toList_ofList]
    exact ⟨fun c => Percent.isPlain_inUserInfo_of_mem_encode,
      fun c => Percent.isPlain_inUserInfo_of_mem_encode⟩

theorem port_of_readPort {p : ℕ} (h : readPort scheme text = .ok (some p)) :
    p ≤ 65535 ∧ defaultPort scheme ≠ some p := by
  unfold readPort at h
  split at h
  · cases h
  · dsimp only at h
    split at h
    · cases h
    · split at h
      · cases h
      · next hport hdefault =>
        simp only [Except.ok.injEq, Option.some.injEq] at h
        subst h
        simp only [not_or] at hdefault
        exact ⟨by omega, hdefault.2⟩

theorem port_of_portOf {p : ℕ} (h : portOf scheme text = .ok (some p)) :
    p ≤ 65535 ∧ defaultPort scheme ≠ some p := by
  unfold portOf at h
  dsimp only at h
  split at h
  · cases h
  · exact port_of_readPort h

/-- The segments of a path, added to settled ones. -/
theorem exists_settled_pushAll {done : List String} (hdone : ∀ s ∈ done, IsSettled s)
    (path : List Char) :
    (pushAll false done (segmentsOf true path)).reverse ≠ [] ∧
      ∀ s ∈ (pushAll false done (segmentsOf true path)).reverse, IsSettled s := by
  refine ⟨by simpa using pushAll_ne_nil (segmentsOf_ne_nil true path), fun s hs => ?_⟩
  exact isSettled_of_mem_pushAll hdone (fun t => isWritten_of_mem_segmentsOf) s
    (List.mem_reverse.mp hs)

theorem exists_settled_readPath (h : IsWeb scheme) (path : List Char) :
    ∃ parts, readPath scheme [] path = .segments parts ∧ parts ≠ [] ∧
      ∀ s ∈ parts, IsSettled s := by
  refine ⟨_, readPath_of_ne_file h.2, ?_⟩
  rw [h.1]
  exact exists_settled_pushAll (by simp) path

theorem exists_settled_rootedBody (h : IsWeb scheme) (path : List Char) :
    ∃ parts, rootedBody scheme path = .segments parts ∧ parts ≠ [] ∧ ∀ s ∈ parts, IsSettled s := by
  match path with
  | [] => exact ⟨[""], rfl, by simp, by simpa using isSettled_empty⟩
  | c :: path =>
    rw [rootedBody]
    split <;> exact exists_settled_readPath h _

/-! ### URLs that are read -/

theorem normal_of_readAuthority (hscheme : IsWeb scheme) (h : readAuthority scheme text = .ok u) :
    Normal u := by
  obtain ⟨-, host, port, hhost, hport, rfl⟩ := (readAuthority_eq_ok_iff hscheme.1).mp h
  have huser := isPlain_of_userOf (authorityOf text)
  refine ⟨huser.1, huser.2, ⟨host, _, rfl, hhost⟩, ?_, exists_settled_rootedBody hscheme _, ?_, ?_⟩
  · rintro p rfl
    exact port_of_portOf hport
  · intro q hq
    obtain ⟨q', -, rfl⟩ := Option.map_eq_some_iff.mp hq
    exact isPlain_of_writtenQuery hscheme q'
  · intro f hf
    obtain ⟨f', -, rfl⟩ := Option.map_eq_some_iff.mp hf
    exact isPlain_of_writtenFragment f'

theorem Normal.withFragment (hb : Normal b) (fragment : Option (List Char)) :
    Normal (withFragment b fragment) where
  username := hb.username
  password := hb.password
  host := hb.host
  port := hb.port
  parts := hb.parts
  query := hb.query
  fragment f hf := by
    obtain ⟨f', -, rfl⟩ := Option.map_eq_some_iff.mp hf
    exact isPlain_of_writtenFragment f'

/-- Another path, query and fragment keep the rest of the URL. -/
theorem Normal.withTail (hb : Normal b) (hscheme : IsWeb b.scheme) {parts : List String}
    (hne : parts ≠ []) (hparts : ∀ s ∈ parts, IsSettled s) (query fragment : Option (List Char)) :
    Normal (withTail { b with body := .segments parts } query fragment) where
  username := hb.username
  password := hb.password
  host := hb.host
  port := hb.port
  parts := ⟨parts, rfl, hne, hparts⟩
  query q hq := by
    obtain ⟨q', -, rfl⟩ := Option.map_eq_some_iff.mp hq
    exact isPlain_of_writtenQuery hscheme q'
  fragment f hf := by
    obtain ⟨f', -, rfl⟩ := Option.map_eq_some_iff.mp hf
    exact isPlain_of_writtenFragment f'

theorem Normal.isSettled_of_mem_directoryOf (hb : Normal b) :
    ∀ s ∈ directoryOf b, IsSettled s := by
  obtain ⟨parts, hbody, -, hparts⟩ := hb.parts
  intro s hs
  rw [directoryOf, hbody] at hs
  exact hparts s (List.mem_reverse.mp (List.mem_of_mem_drop hs))

theorem normal_of_readRelative (hb : Normal b) (hscheme : IsWeb b.scheme)
    (h : readRelative b text = .ok u) : Normal u := by
  match text, h with
  | [], h =>
    cases h
    exact hb.withFragment none
  | c :: text, h =>
    rw [readRelative_cons] at h
    split at h
    · split at h
      · exact normal_of_readAuthority hscheme h
      · obtain ⟨parts, hbody, hne, hparts⟩ := exists_settled_readPath hscheme (splitTail text).1
        dsimp only at h
        rw [hbody] at h
        cases h
        exact hb.withTail hscheme hne hparts _ _
    · dsimp only at h
      split at h
      · obtain ⟨parts, hbody, hne, hparts⟩ := hb.parts
        split at h
        · cases h
          exact hb.withFragment _
        · cases h
          have := hb.withTail hscheme hne hparts
          rw [← hbody] at this
          exact this _ _
      · cases h
        rw [hscheme.1, pushPath_eq]
        have hsettled := exists_settled_pushAll hb.isSettled_of_mem_directoryOf
          (splitTail (c :: text)).1
        exact hb.withTail hscheme hsettled.1 hsettled.2 _ _

/-- Resolving keeps URLs of the web in normal form. -/
theorem normal_of_resolve {text : String}
    (hbase : ∀ b, base = some b → IsWeb b.scheme → Normal b) (h : resolve base text = .ok u)
    (hu : IsWeb u.scheme) : Normal u := by
  match hscheme : splitScheme (clean text), base with
  | some (scheme, rest), base =>
    rw [resolve_of_scheme hscheme] at h
    obtain rfl := scheme_of_readWithScheme h
    unfold readWithScheme at h
    rw [if_neg hu.2, if_pos hu.1] at h
    dsimp only at h
    split at h
    · next b hb =>
      obtain ⟨hb, hsame⟩ := Option.filter_eq_some_iff.mp hb
      simp only [Bool.and_eq_true, beq_iff_eq] at hsame
      have hweb : IsWeb b.scheme := hsame.2 ▸ hu
      exact normal_of_readRelative (hbase b hb hweb) hweb h
    · exact normal_of_readAuthority hu h
  | none, none =>
    rw [resolve_of_no_base hscheme] at h
    cases h
  | none, some b =>
    obtain ⟨fragment, -, heq⟩ | heq := resolve_of_base hscheme b
    · rw [heq] at h
      cases h
      exact (hbase b rfl hu).withFragment _
    · rw [heq] at h
      split at h
      · cases h
      · split at h
        · next hfile => exact absurd (scheme_of_readFile (by simpa using hfile) h) hu.2
        · have hweb : IsWeb b.scheme := scheme_of_readRelative h ▸ hu
          exact normal_of_readRelative (hbase b rfl hweb) hweb h

theorem normal_of_parse {text : String} (h : parse text = .ok u) (hu : IsWeb u.scheme) :
    Normal u :=
  normal_of_resolve (by simp) h hu

theorem normal_of_join {text : String} (hb : IsWeb b.scheme → Normal b)
    (h : join b text = .ok u) (hu : IsWeb u.scheme) : Normal u :=
  normal_of_resolve (by simpa using hb) h hu

/-- URLs of the web with one origin have the same scheme, host and port. -/
theorem Normal.eq_of_origin?_eq {v : Url} (hu : Normal u) (hv : Normal v) (huweb : IsWeb u.scheme)
    (hvweb : IsWeb v.scheme) (h : u.origin? = v.origin?) :
    u.scheme = v.scheme ∧ u.host = v.host ∧ u.port = v.port := by
  obtain ⟨host, -, hhost, -⟩ := hu.host
  obtain ⟨host', -, hhost', -⟩ := hv.host
  rw [origin?_of_isWeb huweb, origin?_of_isWeb hvweb, hhost, hhost'] at h
  simp only [Option.map_some, Option.some.injEq, Origin.mk.injEq] at h
  obtain ⟨hscheme, rfl, hport⟩ := h
  have hu := hu.port
  have hv := hv.port
  rw [← hscheme] at hport hv
  refine ⟨hscheme, hhost.trans hhost'.symm, ?_⟩
  cases hup : u.port <;> cases hvp : v.port <;> grind

end SiteSnapshot.Url
