import Mathlib.Data.List.Basic
import SiteSnapshot.Proofs.Url.Descent
import SiteSnapshot.Proofs.Url.Hosts

/-!
# URLs that are read from their text

A URL of the web in normal form is written as an authority and what follows it
(`toList_text`), and both are taken apart again in the same places. So its text is read as a
URL with the same scheme and port, on the host that the text of its host is read as
(`host_port_of_resolve_text`).
-/

namespace SiteSnapshot.Url

variable {user hostText rest tail : List Char} {scheme : String} {u v : Url}

/-! ### Parts of an authority -/

theorem splitLastAt_of_notMem (h : '@' ∉ rest) : splitLastAt rest = none := by
  have hall : ∀ c ∈ rest.reverse, (c != '@') = true := by
    intro c hc
    have : c ≠ '@' := fun heq => h (heq ▸ List.mem_reverse.mp hc)
    simpa using this
  have htake : rest.reverse.takeWhile (· != '@') = rest.reverse := by
    rw [← List.append_nil rest.reverse, List.takeWhile_append_of_pos hall, List.takeWhile_nil]
  simp [splitLastAt, htake]

theorem splitLastAt_append (h : '@' ∉ rest) :
    splitLastAt (user ++ '@' :: rest) = some (user, rest) := by
  have hall : ∀ c ∈ rest.reverse, (c != '@') = true := by
    intro c hc
    have : c ≠ '@' := fun heq => h (heq ▸ List.mem_reverse.mp hc)
    simpa using this
  have htake : (user ++ '@' :: rest).reverse.takeWhile (· != '@') = rest.reverse := by
    rw [List.reverse_append, List.reverse_cons, List.append_assoc,
      List.takeWhile_append_of_pos hall]
    simp
  have hlength : rest.length ≠ (user ++ '@' :: rest).length := by
    rw [List.length_append, List.length_cons]
    omega
  have hbefore : (user ++ '@' :: rest).length - rest.length - 1 = user.length := by
    rw [List.length_append, List.length_cons]
    omega
  simp only [splitLastAt, htake, List.reverse_reverse, if_neg hlength, hbefore, List.take_left]

theorem hostPart_go_append {done : List Char}
    (h : ∀ c ∈ hostText, c ≠ ':' ∧ c ≠ '[' ∧ c ≠ ']') (rest : List Char) :
    hostPart.go false done (hostText ++ rest) =
      hostPart.go false (hostText.reverse ++ done) rest := by
  induction hostText generalizing done with
  | nil => rfl
  | cons c hostText ih =>
    rw [List.forall_mem_cons] at h
    obtain ⟨hcolon, hopen, hclose⟩ := h.1
    rw [List.cons_append, hostPart.go, if_neg (by simp [hcolon]), if_neg hopen, if_neg hclose,
      ih h.2]
    simp

theorem hostPart_go_inside {done : List Char} (h : ']' ∉ hostText) (rest : List Char) :
    hostPart.go true done (hostText ++ rest) =
      hostPart.go true (hostText.reverse ++ done) rest := by
  induction hostText generalizing done with
  | nil => rfl
  | cons c hostText ih =>
    simp only [List.mem_cons, not_or] at h
    have hinside : (if c = '[' then true else if c = ']' then false else true) = true := by
      split
      · rfl
      · rw [if_neg (Ne.symm h.1)]
    rw [List.cons_append, hostPart.go, if_neg (by simp), hinside, ih h.2]
    simp

/-- The port of a URL as text, behind its colon. -/
def portText (port : Option ℕ) : List Char :=
  port.elim [] fun p => ':' :: Nat.toDigits 10 p

theorem hostPart_go_portText (done : List Char) (port : Option ℕ) :
    hostPart.go false done (portText port) = done.reverse := by
  cases port <;> simp [portText, hostPart.go]

/-- The host of a URL of the web is found again before its port. -/
theorem hostPart_append {text : List Char} {host : Host}
    (h : Host.parseSpecial text = .ok host) (port : Option ℕ) :
    hostPart (host.text.toList ++ portText port) = host.text.toList := by
  obtain ⟨-, hname | ⟨inner, htext, hinner⟩⟩ := Host.text_of_parseSpecial h
  · have hchars : ∀ c ∈ host.text.toList, c ≠ ':' ∧ c ≠ '[' ∧ c ≠ ']' := by
      intro c hc
      refine ⟨?_, ?_, ?_⟩ <;>
      · rintro rfl
        exact absurd (hname _ hc) (by decide)
    rw [hostPart, hostPart_go_append hchars, hostPart_go_portText]
    simp
  · have hclose : ']' ∉ inner := fun hmem => absurd (hinner _ hmem) (by decide)
    rw [hostPart, htext, List.cons_append, List.append_assoc, hostPart.go, if_neg (by simp),
      if_pos rfl, hostPart_go_inside hclose, List.singleton_append, hostPart.go,
      if_neg (by simp), if_neg (by decide), if_pos rfl, hostPart_go_portText]
    simp

/-! ### Ports -/

theorem foldl_min_eq (digits : List Char) (n : ℕ) :
    digits.foldl (fun n c => min 65536 (n * 10 + (c.toNat - '0'.toNat))) (min 65536 n) =
      min 65536 (Nat.ofDigitChars 10 digits n) := by
  induction digits generalizing n with
  | nil => simp
  | cons c digits ih =>
    rw [List.foldl_cons, Nat.ofDigitChars_cons, ← ih]
    congr 1
    omega

/-- A port is read back. -/
theorem portOf_append {text : List Char} {host : Host}
    (h : Host.parseSpecial text = .ok host) {port : Option ℕ}
    (hport : ∀ p, port = some p → p ≤ 65535 ∧ defaultPort scheme ≠ some p) :
    portOf scheme (host.text.toList ++ portText port) = .ok port := by
  rw [portOf, hostPart_append h, List.drop_left]
  cases port with
  | none => rfl
  | some p =>
    obtain ⟨hle, hdefault⟩ := hport p rfl
    have hdigits : (Nat.toDigits 10 p).all Char.isDigit = true :=
      List.all_eq_true.mpr fun c hc => Nat.isDigit_of_mem_toDigits (by decide) (by decide) hc
    have hvalue := foldl_min_eq (Nat.toDigits 10 p) 0
    rw [Nat.ofDigitChars_toDigits (by decide) (by decide)] at hvalue
    have hnumber : (Nat.toDigits 10 p).foldl
        (fun n c => min 65536 (n * 10 + (c.toNat - '0'.toNat))) 0 = p := by
      simpa [show p ≤ 65536 by omega] using hvalue
    simp only [portText, Option.elim_some, List.isEmpty_cons, Bool.false_eq_true, if_false,
      List.drop_one, List.tail_cons]
    unfold readPort
    simp only [hdigits, hnumber, Bool.not_true, Bool.false_eq_true, if_false]
    rw [if_neg (by omega), if_neg]
    simp [Nat.toDigits_ne_nil, hdefault]

/-! ### A URL of the web as text -/

/-- User name and password as text, before their at sign. -/
def userText (u : Url) : List Char :=
  if u.username = "" ∧ u.password = "" then []
  else
    u.username.toList ++ (if u.password = "" then [] else ':' :: u.password.toList) ++ ['@']

/-- The authority of a URL with a host, as text. -/
def authorityText (u : Url) (host : Host) : List Char :=
  userText u ++ (host.text.toList ++ portText u.port)

/-- A fragment as text, behind its hash sign. -/
def fragmentText (fragment : Option String) : List Char :=
  fragment.elim [] fun f => '#' :: f.toList

theorem toList_text {host : Host} {parts : List String} (hhost : u.host = some host)
    (hbody : u.body = .segments parts) :
    u.text.toList =
      u.scheme.toList ++ ':' :: '/' :: '/' ::
        (authorityText u host ++ slashed parts ++ queryText u.query ++
          fragmentText u.fragment) := by
  have huser : (if u.username.isEmpty && u.password.isEmpty then ""
      else u.username ++ (if u.password.isEmpty then "" else ":" ++ u.password) ++ "@").toList =
        userText u := by
    rw [userText]
    by_cases hname : u.username = "" <;> by_cases hpassword : u.password = "" <;>
      simp [hname, hpassword]
  have hport : (u.port.elim "" fun p => ":" ++ toString p).toList = portText u.port := by
    cases u.port with
    | none => rfl
    | some p => simp [portText]
  have hquery : (u.query.elim "" ("?" ++ ·)).toList = queryText u.query := by
    cases u.query <;> simp [queryText]
  have hfragment : (u.fragment.elim "" ("#" ++ ·)).toList = fragmentText u.fragment := by
    cases u.fragment <;> simp [fragmentText]
  have hslashes : "//".toList = ['/', '/'] := rfl
  have hcolon : ":".toList = [':'] := rfl
  simp only [text, hhost, String.toList_append, huser, hport, hquery, hfragment,
    toList_path hbody, hslashes, hcolon, authorityText]
  simp

/-- True for a visible character that ends no authority. -/
def isAuthorityChar (c : Char) : Bool :=
  !(endsSegment true c || c == '?' || c == '#') && !isEdge c

theorem isAuthorityChar_of_ascii {p : Char → Bool} {c : Char}
    (hp : ∀ n < 0x80, p (Char.ofNat n) = true → isAuthorityChar (Char.ofNat n) = true)
    (hascii : c.toNat < 0x80) (hc : p c = true) : isAuthorityChar c = true := by
  have := hp c.toNat hascii
  rw [Char.ofNat_toNat] at this
  exact this hc

theorem isAuthorityChar_of_isPlain {c : Char} (h : Percent.isPlain Percent.inUserInfo c = true) :
    isAuthorityChar c = true :=
  isAuthorityChar_of_ascii (by decide) (Percent.isPlain_iff.mp h).1 h

theorem isAuthorityChar_of_isNameChar {c : Char} (h : Domain.isNameChar c = true) :
    isAuthorityChar c = true :=
  isAuthorityChar_of_ascii (by decide) (Domain.toNat_lt_of_isNameChar h) h

theorem isAuthorityChar_of_host {text : List Char} {host : Host}
    (h : Host.parseSpecial text = .ok host) :
    ∀ c ∈ host.text.toList, isAuthorityChar c = true ∧ c ≠ '@' := by
  obtain ⟨-, hname | ⟨inner, htext, hinner⟩⟩ := Host.text_of_parseSpecial h
  · intro c hc
    refine ⟨isAuthorityChar_of_isNameChar (hname c hc), ?_⟩
    rintro rfl
    exact absurd (hname _ hc) (by decide)
  · intro c hc
    rw [htext, List.mem_cons, List.mem_append, List.mem_singleton] at hc
    obtain rfl | hc | rfl := hc
    · decide
    · refine ⟨?_, ?_⟩
      · have := hinner c hc
        rw [Host.isAddressChar, Bool.or_eq_true, beq_iff_eq] at this
        obtain hname | rfl := this
        · exact isAuthorityChar_of_isNameChar hname
        · decide
      · rintro rfl
        exact absurd (hinner _ hc) (by decide)
    · decide

theorem isAuthorityChar_of_portText (port : Option ℕ) :
    ∀ c ∈ portText port, isAuthorityChar c = true ∧ c ≠ '@' := by
  cases port with
  | none => simp [portText]
  | some p =>
    intro c hc
    obtain rfl | hc := List.mem_cons.mp hc
    · decide
    · have hname := Host.isNameChar_of_mem_toDigits (by decide) (by decide) p c hc
      refine ⟨isAuthorityChar_of_isNameChar hname, ?_⟩
      rintro rfl
      exact absurd hname (by decide)

theorem isAuthorityChar_of_userText (h : Normal u) :
    ∀ c ∈ userText u, isAuthorityChar c = true := by
  intro c hc
  rw [userText] at hc
  split at hc
  · cases hc
  · rw [List.mem_append, List.mem_append, List.mem_singleton] at hc
    obtain (hc | hc) | rfl := hc
    · exact isAuthorityChar_of_isPlain (h.username c hc)
    · split at hc
      · cases hc
      · obtain rfl | hc := List.mem_cons.mp hc
        · decide
        · exact isAuthorityChar_of_isPlain (h.password c hc)
    · decide

theorem isAuthorityChar_of_authorityText (hu : Normal u) {text : List Char} {host : Host}
    (hhost : Host.parseSpecial text = .ok host) :
    ∀ c ∈ authorityText u host, isAuthorityChar c = true := by
  intro c hc
  rw [authorityText, List.mem_append, List.mem_append] at hc
  obtain hc | hc | hc := hc
  · exact isAuthorityChar_of_userText hu c hc
  · exact (isAuthorityChar_of_host hhost c hc).1
  · exact (isAuthorityChar_of_portText u.port c hc).1

/-- What stands behind the user of an authority is found again. -/
theorem hostPortOf_authorityText {text : List Char} {host : Host}
    (hhost : Host.parseSpecial text = .ok host) :
    hostPortOf (authorityText u host) = host.text.toList ++ portText u.port := by
  have hat : '@' ∉ host.text.toList ++ portText u.port := by
    rw [List.mem_append]
    rintro (hc | hc)
    · exact (isAuthorityChar_of_host hhost _ hc).2 rfl
    · exact (isAuthorityChar_of_portText u.port _ hc).2 rfl
  rw [hostPortOf, authorityText, userText]
  split
  · simp [splitLastAt_of_notMem hat]
  · rw [List.append_assoc, List.singleton_append, splitLastAt_append hat]
    rfl

/-- The authority ends where the path starts. -/
theorem authorityOf_append {authority : List Char} {parts : List String}
    (h : ∀ c ∈ authority, isAuthorityChar c = true) (hne : parts ≠ []) (tail : List Char) :
    authorityOf (authority ++ (slashed parts ++ tail)) = authority := by
  obtain ⟨s, rest, rfl⟩ := List.exists_cons_of_ne_nil hne
  have hchars : ∀ c ∈ authority, (!(endsSegment true c || c == '?' || c == '#')) = true := by
    intro c hc
    have := h c hc
    rw [isAuthorityChar, Bool.and_eq_true] at this
    exact this.1
  rw [authorityOf, List.takeWhile_append_of_pos hchars, slashed_cons, List.cons_append,
    List.takeWhile_cons_of_neg (by decide), List.append_nil]

/-! ### Texts that are read again -/

/-- The scheme of a URL of the web is written in small letters. -/
theorem isScheme_of_isWeb (h : IsWeb scheme) :
    IsScheme scheme.toList ∧ scheme.toList.map Char.toLower = scheme.toList := by
  have hall : ∀ entry ∈ specialSchemes,
      (entry.1.toList.all isSchemeChar ∧ entry.1.toList.head?.any Char.isAlpha) ∧
        entry.1.toList.map Char.toLower = entry.1.toList := by
    decide
  obtain ⟨entry, hentry, heq⟩ := List.any_eq_true.mp h.1
  obtain rfl : entry.1 = scheme := by simpa using heq
  obtain ⟨⟨hchars, hhead⟩, hlower⟩ := hall entry hentry
  exact ⟨⟨List.all_eq_true.mp hchars, (Option.any_eq_true _ _).mp hhead⟩, hlower⟩

theorem isEdge_of_isAuthorityChar {c : Char} (h : isAuthorityChar c = true) :
    isEdge c = false := by
  rw [isAuthorityChar, Bool.and_eq_true, Bool.not_eq_true', Bool.not_eq_true'] at h
  exact h.2

theorem isEdge_of_queryText {query : Option String}
    (h : ∀ q, query = some q → ∀ c ∈ q.toList, isEdge c = false) :
    ∀ c ∈ queryText query, isEdge c = false := by
  match query, h with
  | none, _ => simp [queryText]
  | some q, h =>
    intro c hc
    obtain rfl | hc := List.mem_cons.mp hc
    · decide
    · exact h q rfl c hc

theorem isEdge_of_fragmentText {fragment : Option String}
    (h : ∀ f, fragment = some f → ∀ c ∈ f.toList, Percent.isPlain Percent.inFragment c = true) :
    ∀ c ∈ fragmentText fragment, isEdge c = false := by
  match fragment, h with
  | none, _ => simp [fragmentText]
  | some f, h =>
    intro c hc
    obtain rfl | hc := List.mem_cons.mp hc
    · decide
    · exact isEdge_of_isPlain (fun c hc => by simp_all [Percent.inFragment]) (h f rfl c hc)

theorem isEdge_of_slashed {parts : List String} (h : ∀ s ∈ parts, IsSettled s) :
    ∀ c ∈ slashed parts, isEdge c = false := by
  intro c hc
  obtain ⟨s, hs, hc⟩ := List.mem_flatMap.mp hc
  obtain rfl | hc := List.mem_cons.mp hc
  · decide
  · exact isEdge_of_isPlain_inPath ((h s hs).written c hc).1

/-- Every character of the text counts. -/
theorem clean_text (hu : Normal u) (hweb : IsWeb u.scheme) : clean u.text = u.text.toList := by
  obtain ⟨host, hostSource, hhost, hparse⟩ := hu.host
  obtain ⟨parts, hbody, -, hparts⟩ := hu.parts
  refine clean_of_forall fun c hc => ?_
  rw [toList_text hhost hbody] at hc
  simp only [List.mem_append, List.mem_cons] at hc
  obtain hc | rfl | rfl | rfl | ((hc | hc) | hc) | hc := hc
  · exact isEdge_of_isSchemeChar ((isScheme_of_isWeb hweb).1.1 c hc)
  · decide
  · decide
  · decide
  · exact isEdge_of_isAuthorityChar (isAuthorityChar_of_authorityText hu hparse c hc)
  · exact isEdge_of_slashed hparts c hc
  · refine isEdge_of_queryText (fun q hq d hd => ?_) c hc
    exact isEdge_of_isPlain_inSpecialQuery (hu.query q hq d hd)
  · exact isEdge_of_fragmentText hu.fragment c hc

theorem slashesOf_authority {authority : List Char} (hne : authority ≠ [])
    (h : ∀ c ∈ authority, isAuthorityChar c = true) (tail : List Char) :
    slashesOf ('/' :: '/' :: (authority ++ tail)) = 2 := by
  obtain ⟨c, rest, rfl⟩ := List.exists_cons_of_ne_nil hne
  have hc : endsSegment true c = false := by
    have := h c (.head _)
    simp only [isAuthorityChar, Bool.and_eq_true, Bool.not_eq_true', Bool.or_eq_false_iff] at this
    exact this.1.1.1
  have hslash : endsSegment true '/' = true := by decide
  simp [slashesOf, hc, hslash]

/-- **The text of a URL of the web** in normal form is read as a URL with the same scheme and
port, on the host that the text of its host is read as. -/
theorem host_port_of_resolve_text {base : Option Url} (hu : Normal u) (hweb : IsWeb u.scheme)
    (h : resolve base u.text = .ok v) :
    v.scheme = u.scheme ∧ v.port = u.port ∧ ∃ host host', u.host = some host ∧
      Host.parseSpecial host.text.toList = .ok host' ∧ v.host = some host' := by
  obtain ⟨host, hostSource, hhost, hparse⟩ := hu.host
  obtain ⟨parts, hbody, hne, hparts⟩ := hu.parts
  have hchars := isAuthorityChar_of_authorityText hu hparse
  have hauthority : authorityText u host ≠ [] := by
    simp [authorityText, (Host.text_of_parseSpecial hparse).1]
  have hsplit : splitScheme (clean u.text) = some (u.scheme, '/' :: '/' ::
      (authorityText u host ++ (slashed parts ++ (queryText u.query ++
        fragmentText u.fragment)))) := by
    obtain ⟨hscheme, hlower⟩ := isScheme_of_isWeb hweb
    refine splitScheme_eq_some_iff.mpr ⟨u.scheme.toList, hscheme, ?_, ?_⟩
    · rw [hlower, String.ofList_toList]
    · rw [clean_text hu hweb, toList_text hhost hbody]
      simp only [List.append_assoc]
  have hslashes := slashesOf_authority hauthority hchars
    (slashed parts ++ (queryText u.query ++ fragmentText u.fragment))
  rw [resolve_of_scheme hsplit, readWithScheme_of_authority hweb (by omega), hslashes,
    List.drop_succ_cons, List.drop_succ_cons, List.drop_zero,
    readAuthority_eq_ok_iff hweb.1, authorityOf_append hchars hne,
    hostPortOf_authorityText hparse, hostPart_append hparse, portOf_append hparse hu.port] at h
  obtain ⟨-, host', port, hhost', hport, rfl⟩ := h
  cases hport
  exact ⟨rfl, rfl, host, host', hhost, hhost', rfl⟩

end SiteSnapshot.Url
