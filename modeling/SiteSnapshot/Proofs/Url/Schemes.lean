import Mathlib.Data.List.Basic
import Mathlib.Data.List.TakeWhile
import SiteSnapshot.Proofs.Url.Authority

/-!
# Schemes and origins

The scheme at the start of a text decides how the text is read. `splitScheme_eq_some_iff`
says which texts start with a scheme, and `scheme_of_readWithScheme` that what is read has
it. Only URLs of the web have an origin, and blobs, whose path is then a URL with a scheme
of its own (`origin?_eq_some`).
-/

namespace SiteSnapshot.Url

variable {text start more : List Char} {scheme : String} {base : Option Url} {b u : Url}
  {o : Origin}

/-! ### Characters that count -/

/-- True for characters that never count at the ends of a text. -/
def isEdge (c : Char) : Bool :=
  c.toNat ≤ 0x20

/-- True for characters that count nowhere in a text. -/
def isBreak (c : Char) : Bool :=
  c == '\t' || c == '\n' || c == '\r'

theorem clean_eq (text : String) :
    clean text =
      ((text.toList.dropWhile isEdge).reverse.dropWhile isEdge).reverse.filter (!isBreak ·) :=
  rfl

theorem mem_of_mem_clean {text : String} {c : Char} (h : c ∈ clean text) : c ∈ text.toList := by
  rw [clean_eq] at h
  have hinner := (List.dropWhile_suffix isEdge).mem (List.mem_reverse.mp (List.mem_of_mem_filter h))
  exact (List.dropWhile_suffix isEdge).mem (List.mem_reverse.mp hinner)

theorem dropWhile_isEdge (h : ∀ c ∈ text, isEdge c = false) : text.dropWhile isEdge = text := by
  rw [List.dropWhile_eq_self_iff]
  intro hpos
  simpa using h _ (List.getElem_mem hpos)

theorem isBreak_of_isEdge {c : Char} (h : isEdge c = false) : isBreak c = false := by
  have hne : ∀ d : Char, isEdge d = true → (c == d) = false := by
    rintro d hd
    rw [beq_eq_false_iff_ne]
    rintro rfl
    rw [h] at hd
    cases hd
  simp [isBreak, hne '\t' (by decide), hne '\n' (by decide), hne '\r' (by decide)]

theorem filter_isBreak (h : ∀ c ∈ text, isEdge c = false) : text.filter (!isBreak ·) = text := by
  rw [List.filter_eq_self]
  intro c hc
  simp [isBreak_of_isEdge (h c hc)]

/-- A text without blanks and control characters counts as it is. -/
theorem clean_of_forall {text : String} (h : ∀ c ∈ text.toList, isEdge c = false) :
    clean text = text.toList := by
  rw [clean_eq, dropWhile_isEdge h, dropWhile_isEdge (by simpa using h), List.reverse_reverse,
    filter_isBreak h]

/-- Visible characters at the start of a text count, whatever follows. -/
theorem exists_clean_append (hstart : ∀ c ∈ start, isEdge c = false) (hne : start ≠ [])
    (more : List Char) : ∃ rest, clean (String.ofList (start ++ more)) = start ++ rest := by
  have hfront : (start ++ more).dropWhile isEdge = start ++ more := by
    obtain ⟨c, start, rfl⟩ := List.exists_cons_of_ne_nil hne
    rw [List.cons_append, List.dropWhile_cons_of_neg (by simp [hstart c (.head _)])]
  have hback : ∃ l, (start ++ more).reverse.dropWhile isEdge = l ++ start.reverse := by
    rw [List.reverse_append, List.dropWhile_append]
    split
    · exact ⟨[], dropWhile_isEdge (by simpa using hstart)⟩
    · exact ⟨_, rfl⟩
  obtain ⟨l, hl⟩ := hback
  refine ⟨l.reverse.filter (!isBreak ·), ?_⟩
  rw [clean_eq, String.toList_ofList, hfront, hl, List.reverse_append, List.reverse_reverse,
    List.filter_append, filter_isBreak hstart]

/-- What counts of a text still counts when more follows. -/
theorem clean_prefix (text more : List Char) :
    clean (String.ofList text) <+: clean (String.ofList (text ++ more)) := by
  rw [clean_eq, clean_eq, String.toList_ofList, String.toList_ofList, List.dropWhile_append]
  refine List.IsPrefix.filter _ ?_
  split
  · next h => simp [List.isEmpty_iff.mp h]
  · rw [List.reverse_append, List.dropWhile_append]
    split
    · exact List.prefix_rfl
    · rw [List.reverse_append, List.reverse_reverse]
      exact (List.reverse_prefix.mpr (List.dropWhile_suffix _)).trans
        (by simp [List.prefix_append])

/-! ### The scheme of a text -/

/-- True for the characters of a scheme. -/
def isSchemeChar (c : Char) : Bool :=
  c.isAlphanum || c == '+' || c == '-' || c == '.'

theorem isEdge_of_isSchemeChar {c : Char} (h : isSchemeChar c = true) : isEdge c = false := by
  by_contra hedge
  have hall : ∀ n < 0x21, isSchemeChar (Char.ofNat n) = false := by decide
  rw [Bool.not_eq_false, isEdge, decide_eq_true_eq] at hedge
  have := hall c.toNat (by omega)
  rw [Char.ofNat_toNat, h] at this
  cases this

/-- True for what is written of a scheme: a letter, and more of its characters. -/
def IsScheme (written : List Char) : Prop :=
  (∀ c ∈ written, isSchemeChar c = true) ∧ ∃ c ∈ written.head?, c.isAlpha = true

theorem splitScheme_cons (c : Char) (text : List Char) :
    splitScheme (c :: text) =
      let written := (c :: text).takeWhile isSchemeChar
      match (c :: text).drop written.length with
      | ':' :: more =>
        if c.isAlpha then some (String.ofList (written.map Char.toLower), more) else none
      | _ => none :=
  rfl

/-- A text starts with a scheme if that is written before a colon. -/
theorem splitScheme_eq_some_iff :
    splitScheme text = some (scheme, more) ↔
      ∃ written, IsScheme written ∧ scheme = String.ofList (written.map Char.toLower) ∧
        text = written ++ ':' :: more := by
  constructor
  · intro h
    match text, h with
    | c :: text, h =>
      simp only [splitScheme_cons] at h
      split at h
      · next rest hrest =>
        split at h
        · next hc =>
          simp only [Option.some.injEq, Prod.mk.injEq] at h
          obtain ⟨rfl, rfl⟩ := h
          refine ⟨(c :: text).takeWhile isSchemeChar, ⟨fun d hd => ?_, c, ?_, hc⟩, rfl, ?_⟩
          · exact List.mem_takeWhile_imp hd
          · have hscheme : isSchemeChar c = true := by simp [isSchemeChar, Char.isAlphanum, hc]
            simp [List.takeWhile_cons_of_pos hscheme]
          · rw [← hrest]
            exact (List.prefix_iff_eq_append.mp (List.takeWhile_prefix isSchemeChar)).symm
        · cases h
      · cases h
  · rintro ⟨written, ⟨hwritten, c, hc, halpha⟩, rfl, rfl⟩
    obtain ⟨tail, rfl⟩ : ∃ tail, written = c :: tail := List.head?_eq_some_iff.mp hc
    have hsplit : (c :: tail ++ ':' :: more).takeWhile isSchemeChar = c :: tail := by
      rw [List.takeWhile_append_of_pos hwritten, List.takeWhile_cons_of_neg (by decide),
        List.append_nil]
    rw [List.cons_append] at hsplit ⊢
    rw [splitScheme_cons, hsplit]
    simp [halpha]

theorem splitScheme_slash (rest : List Char) : splitScheme ('/' :: rest) = none := by
  rw [Option.eq_none_iff_forall_ne_some]
  rintro ⟨scheme, more⟩ h
  obtain ⟨written, ⟨-, c, hc, halpha⟩, -, htext⟩ := splitScheme_eq_some_iff.mp h
  obtain ⟨tail, rfl⟩ : ∃ tail, written = c :: tail := List.head?_eq_some_iff.mp hc
  rw [List.cons_append, List.cons.injEq] at htext
  rw [← htext.1] at halpha
  revert halpha
  decide

/-- A text with a scheme still has it when more follows. -/
theorem splitScheme_append (h : splitScheme text = some (scheme, more)) (rest : List Char) :
    splitScheme (text ++ rest) = some (scheme, more ++ rest) := by
  obtain ⟨written, hwritten, rfl, rfl⟩ := splitScheme_eq_some_iff.mp h
  exact splitScheme_eq_some_iff.mpr ⟨written, hwritten, rfl, by simp⟩

theorem toNat_lt_of_isSchemeChar {c : Char} (h : isSchemeChar c = true) : c.toNat < 0x80 := by
  by_contra hlt
  have hne : ∀ d : Char, d.toNat < 0x80 → c ≠ d := by
    rintro d hd rfl
    exact hlt hd
  unfold isSchemeChar Char.isAlphanum Char.isAlpha Char.isUpper Char.isLower Char.isDigit at h
  simp [UInt32.le_iff_toNat_le, hne '+' (by decide), hne '-' (by decide),
    hne '.' (by decide)] at h
  omega

theorem toLower_of_isSchemeChar {c : Char} (h : isSchemeChar c = true) :
    isSchemeChar c.toLower = true ∧ c.toLower.isAlpha = c.isAlpha ∧
      c.toLower.toLower = c.toLower := by
  have hall : ∀ n < 0x80, isSchemeChar (Char.ofNat n) = true →
      isSchemeChar (Char.ofNat n).toLower = true ∧
        (Char.ofNat n).toLower.isAlpha = (Char.ofNat n).isAlpha ∧
        (Char.ofNat n).toLower.toLower = (Char.ofNat n).toLower := by
    decide
  have := hall c.toNat (toNat_lt_of_isSchemeChar h)
  rw [Char.ofNat_toNat] at this
  exact this h

/-- A scheme that was read is read again from its own text. -/
theorem splitScheme_of_splitScheme (h : splitScheme text = some (scheme, more))
    (rest : List Char) : splitScheme (scheme.toList ++ ':' :: rest) = some (scheme, rest) := by
  obtain ⟨written, ⟨hchars, c, hc, halpha⟩, rfl, -⟩ := splitScheme_eq_some_iff.mp h
  obtain ⟨tail, rfl⟩ : ∃ tail, written = c :: tail := List.head?_eq_some_iff.mp hc
  refine splitScheme_eq_some_iff.mpr
    ⟨(c :: tail).map Char.toLower, ⟨?_, c.toLower, rfl, ?_⟩, ?_, by simp⟩
  · intro d hd
    obtain ⟨d', hd', rfl⟩ := List.mem_map.mp hd
    exact (toLower_of_isSchemeChar (hchars d' hd')).1
  · rw [(toLower_of_isSchemeChar (hchars c (.head _))).2.1, halpha]
  · rw [List.map_map]
    exact congrArg String.ofList (List.map_congr_left fun d hd =>
      (toLower_of_isSchemeChar (hchars d hd)).2.2.symm)

/-! ### Reading relative to a base -/

/-- A query as it is written in a URL of a scheme. -/
def writtenQuery (scheme : String) (query : List Char) : String :=
  let set := if isSpecialScheme scheme then Percent.inSpecialQuery else Percent.inQuery
  String.ofList (Percent.encode set query)

/-- A fragment as it is written. -/
def writtenFragment (fragment : List Char) : String :=
  String.ofList (Percent.encode Percent.inFragment fragment)

theorem withTail_eq (u : Url) (query fragment : Option (List Char)) :
    withTail u query fragment =
      { u with
        query := query.map (writtenQuery u.scheme)
        fragment := fragment.map writtenFragment } :=
  rfl

theorem withFragment_eq (u : Url) (fragment : Option (List Char)) :
    withFragment u fragment = { u with fragment := fragment.map writtenFragment } :=
  rfl

/-- The segments that a relative path starts from, latest first. -/
def directoryOf (b : Url) : List String :=
  match b.body with
  | .segments parts => parts.reverse.drop 1
  | .fixed _ => []

/-- A text is an authority if it starts with two slashes of either kind, and a path from the root
if with one. Any other text is a path that starts in the directory of the base. -/
theorem readRelative_cons (b : Url) (c : Char) (text : List Char) :
    readRelative b (c :: text) =
      if endsSegment true c then
        if (text.head?.map (endsSegment true)).getD false then
          readAuthority b.scheme
            (match c :: text with
            | '/' :: '/' :: after => after
            | text => text.dropWhile (endsSegment true))
        else
          let tail := splitTail text
          .ok (withTail { b with body := readPath b.scheme [] tail.1 } tail.2.1 tail.2.2)
      else
        let tail := splitTail (c :: text)
        if tail.1.isEmpty then
          match tail.2.1 with
          | none => .ok (withFragment b tail.2.2)
          | some q => .ok (withTail b (some q) tail.2.2)
        else
          .ok (withTail
            { b with
              body := .segments
                (pushPath (isSpecialScheme b.scheme) false (directoryOf b) tail.1).reverse }
            tail.2.1 tail.2.2) :=
  rfl

theorem scheme_of_readRelative (h : readRelative b text = .ok u) : u.scheme = b.scheme := by
  match text, h with
  | [], h =>
    cases h
    rfl
  | c :: text, h =>
    rw [readRelative_cons] at h
    split at h
    · split at h
      · exact (exists_of_readAuthority h).1
      · cases h
        rfl
    · dsimp only at h
      split at h
      · split at h <;> cases h <;> rfl
      · cases h
        rfl

theorem scheme_of_readFile_relative (hbase : ∀ b, base = some b → b.scheme = "file")
    (hroot : b.scheme = "file") (h : readFile.relative base b text = .ok u) :
    u.scheme = "file" := by
  unfold readFile.relative at h
  dsimp only at h
  split at h
  · cases h
    exact hroot
  · next b' =>
    have hb' : b'.scheme = "file" := hbase b' rfl
    split at h
    · split at h <;> cases h <;> exact hb'
    · cases h
      exact hb'

theorem scheme_of_readFile (hbase : ∀ b, base = some b → b.scheme = "file")
    (h : readFile base text = .ok u) : u.scheme = "file" := by
  unfold readFile at h
  dsimp only at h
  split at h
  · split at h
    · simp only [bind, Except.bind, pure, Except.pure] at h
      -- the host is left out, no host, the machine itself, or another host
      split at h
      · cases h
        rfl
      · split at h
        · cases h
        · split at h <;> cases h <;> rfl
    · split at h
      · cases h
        rfl
      · exact scheme_of_readFile_relative hbase rfl h
  · split at h
    · cases h
      rfl
    · exact scheme_of_readFile_relative hbase rfl h
  · exact scheme_of_readFile_relative hbase rfl h

theorem scheme_of_readWithScheme (h : readWithScheme base scheme text = .ok u) :
    u.scheme = scheme := by
  unfold readWithScheme at h
  split at h
  · next hfile =>
    rw [hfile]
    exact scheme_of_readFile (by simp) h
  · split at h
    · dsimp only at h
      split at h
      · next b hb =>
        have := scheme_of_readRelative h
        simp_all
      · exact (exists_of_readAuthority h).1
    · split at h
      · exact (exists_of_readAuthority h).1
      · cases h
        rfl

theorem resolve_of_scheme {text : String}
    (hscheme : splitScheme (clean text) = some (scheme, more)) (base : Option Url) :
    resolve base text = readWithScheme base scheme more := by
  unfold resolve
  simp only [hscheme]

theorem resolve_of_no_base {text : String} (hscheme : splitScheme (clean text) = none) :
    resolve none text = .error .noBase := by
  unfold resolve
  simp only [hscheme]

/-- A text without a scheme is read relative to a base, and a fragment also relative to a URL
that takes no path. -/
theorem resolve_of_base {text : String} (hscheme : splitScheme (clean text) = none) (b : Url) :
    (∃ fragment, clean text = '#' :: fragment ∧
        resolve (some b) text = .ok (withFragment b (some fragment))) ∨
      resolve (some b) text =
        if b.isFixed then .error .baseWithoutPath
        else if b.scheme = "file" then readFile (some b) (clean text)
        else readRelative b (clean text) := by
  unfold resolve
  simp only [hscheme]
  split
  · next fragment hfragment => exact .inl ⟨fragment, hfragment, rfl⟩
  · exact .inr rfl

/-- A text with a scheme is read as a URL of that scheme. -/
theorem scheme_of_resolve {text : String} (hscheme : splitScheme (clean text) = some (scheme, more))
    (h : resolve base text = .ok u) : u.scheme = scheme :=
  scheme_of_readWithScheme (resolve_of_scheme hscheme base ▸ h)

/-- Without a base, a text needs a scheme. -/
theorem exists_splitScheme_of_parse {text : String} (h : parse text = .ok u) :
    ∃ more, splitScheme (clean text) = some (u.scheme, more) := by
  rw [parse] at h
  match hscheme : splitScheme (clean text) with
  | none =>
    rw [resolve_of_no_base hscheme] at h
    cases h
  | some (scheme, more) =>
    rw [scheme_of_resolve hscheme h]
    exact ⟨more, rfl⟩

/-- A text that starts with a slash is no URL by itself. -/
theorem parse_ne_ok_of_slash {text : String} {rest : List Char} (h : text.toList = '/' :: rest)
    (u : Url) : parse text ≠ .ok u := by
  intro hparse
  obtain ⟨more, hscheme⟩ := exists_splitScheme_of_parse hparse
  have hslash : ∀ c ∈ ['/'], isEdge c = false := by simp [isEdge]
  obtain ⟨rest', hclean⟩ := exists_clean_append hslash (by simp) rest
  rw [← String.ofList_toList (s := text), h, ← List.singleton_append, hclean,
    List.singleton_append, splitScheme_slash] at hscheme
  cases hscheme

/-! ### The web -/

/-- The schemes whose URLs have an origin of their own. -/
def IsWeb (scheme : String) : Prop :=
  isSpecialScheme scheme = true ∧ scheme ≠ "file"

theorem IsWeb.ne_blob (h : IsWeb scheme) : scheme ≠ "blob" := by
  rintro rfl
  exact absurd h.1 (by decide +kernel)

theorem isWeb_http : IsWeb "http" := by
  constructor <;> decide +kernel

theorem isWeb_https : IsWeb "https" := by
  constructor <;> decide +kernel

theorem isWeb_of_http_or_https (h : scheme = "http" ∨ scheme = "https") : IsWeb scheme := by
  obtain rfl | rfl := h
  · exact isWeb_http
  · exact isWeb_https

/-- How many slashes of either kind a text starts with. -/
def slashesOf (text : List Char) : ℕ :=
  (text.takeWhile (endsSegment true)).length

/-- Behind its own scheme, a text of the web is relative unless two slashes follow. -/
theorem readWithScheme_of_isWeb (h : IsWeb b.scheme) (hslashes : slashesOf text < 2) :
    readWithScheme (some b) b.scheme text = readRelative b text := by
  have hfilter : (some b).filter (fun b' => decide (slashesOf text < 2) && b'.scheme == b.scheme) =
      some b := by
    simp [hslashes]
  unfold readWithScheme
  rw [if_neg h.2, if_pos h.1]
  extract_lets slash slashes
  have hcount : slashes = slashesOf text := rfl
  rw [hcount, hfilter]

/-- Behind another scheme than that of the base, or two slashes, there is an authority. -/
theorem readWithScheme_of_authority (h : IsWeb scheme)
    (hbase : ∀ b, base = some b → slashesOf text < 2 → b.scheme ≠ scheme) :
    readWithScheme base scheme text = readAuthority scheme (text.drop (slashesOf text)) := by
  have hfilter : base.filter (fun b => decide (slashesOf text < 2) && b.scheme == scheme) =
      none := by
    rw [Option.filter_eq_none_iff]
    intro b hb
    simpa using hbase b hb
  unfold readWithScheme
  rw [if_neg h.2, if_pos h.1]
  extract_lets slash slashes
  have hcount : slashes = slashesOf text := rfl
  rw [hcount, hfilter]

/-- Behind a scheme that is none of the web, a URL of the web says nothing. -/
theorem readWithScheme_of_not_isWeb (h : ¬IsWeb scheme) (hb : IsWeb b.scheme)
    (text : List Char) : readWithScheme (some b) scheme text = readWithScheme none scheme text := by
  unfold readWithScheme
  by_cases hfile : scheme = "file"
  · rw [if_pos hfile, if_pos hfile, Option.filter_some_neg (by simpa using hb.2)]
    rfl
  · have hspecial : ¬isSpecialScheme scheme = true := fun hspecial => h ⟨hspecial, hfile⟩
    simp only [if_neg hfile, if_neg hspecial]

/-- A text that is read relative to a URL of the web can only be wrong in its authority. -/
theorem exists_of_readRelative_eq_error {e : UrlError} (h : readRelative b text = .error e) :
    2 ≤ slashesOf text ∧ ∃ after, readAuthority b.scheme after = .error e ∧
      ∀ b', readRelative b' text = readAuthority b'.scheme after := by
  match text, h with
  | c :: text, h =>
    have hread := fun b' => readRelative_cons b' c text
    rw [hread] at h
    split at h
    · next hc =>
      split at h
      · next hd =>
        refine ⟨?_, _, h, fun b' => by rw [hread, if_pos hc, if_pos hd]⟩
        match text, hd with
        | d :: text, hd =>
          have hd : endsSegment true d = true := by simpa using hd
          simp [slashesOf, hc, hd]
      · cases h
    · dsimp only at h
      split at h
      · split at h <;> cases h
      · cases h

/-- A text that is wrong relative to one URL of the web is wrong relative to any other, unless it
starts with the scheme of the other and is relative to that alone. -/
theorem join_eq_error {b' : Url} {text : String} {e : UrlError} (hb : IsWeb b.scheme)
    (hb' : IsWeb b'.scheme) (hfixed : b.isFixed = false) (hfixed' : b'.isFixed = false)
    (hown : b'.scheme ≠ b.scheme → ∀ more, splitScheme (clean text) = some (b'.scheme, more) →
      2 ≤ slashesOf more)
    (h : b.join text = .error e) : b'.join text = .error e := by
  have hrelative : ∀ {l : List Char}, readRelative b l = .error e →
      readRelative b' l = .error e := by
    intro l hl
    obtain ⟨-, after, hafter, heq⟩ := exists_of_readRelative_eq_error hl
    rw [heq]
    exact (readAuthority_eq_error_iff hb.1 hb'.1).mp hafter
  unfold join at h ⊢
  match hscheme : splitScheme (clean text) with
  | none =>
    obtain ⟨fragment, -, heq⟩ | heq := resolve_of_base hscheme b
    · rw [heq] at h
      cases h
    · rw [heq, hfixed, if_neg Bool.false_ne_true, if_neg hb.2] at h
      obtain ⟨fragment, hclean, -⟩ | heq' := resolve_of_base hscheme b'
      · obtain ⟨hslashes, -⟩ := exists_of_readRelative_eq_error h
        simp [hclean, slashesOf, endsSegment] at hslashes
      · rw [heq', hfixed', if_neg Bool.false_ne_true, if_neg hb'.2]
        exact hrelative h
  | some (scheme, more) =>
    rw [resolve_of_scheme hscheme] at h ⊢
    by_cases hweb : IsWeb scheme
    · by_cases hslashes : slashesOf more < 2
      · by_cases hsame : b.scheme = scheme
        · rw [← hsame, readWithScheme_of_isWeb hb hslashes] at h
          obtain ⟨hmany, -⟩ := exists_of_readRelative_eq_error h
          omega
        · have hsame' : b'.scheme ≠ scheme := by
            rintro rfl
            have := hown (Ne.symm hsame) more hscheme
            omega
          rw [readWithScheme_of_authority hweb (by simpa using fun _ => hsame)] at h
          rwa [readWithScheme_of_authority hweb (by simpa using fun _ => hsame')]
      · rw [readWithScheme_of_authority hweb (by omega)] at h
        rwa [readWithScheme_of_authority hweb (by omega)]
    · rw [readWithScheme_of_not_isWeb hweb hb] at h
      rwa [readWithScheme_of_not_isWeb hweb hb']

/-- What a text is read as relative to a URL of the web has the scheme of that URL, or one of
its own. -/
theorem scheme_of_join {text : String} (hb : IsWeb b.scheme) (h : b.join text = .ok u) :
    u.scheme = b.scheme ∨ ∃ more, splitScheme (clean text) = some (u.scheme, more) := by
  rw [join] at h
  match hscheme : splitScheme (clean text) with
  | some (scheme, more) =>
    rw [scheme_of_resolve hscheme h]
    exact .inr ⟨more, rfl⟩
  | none =>
    refine .inl ?_
    obtain ⟨fragment, -, heq⟩ | heq := resolve_of_base hscheme b
    · rw [heq] at h
      cases h
      rfl
    · rw [heq] at h
      split at h
      · cases h
      · rw [if_neg hb.2] at h
        exact scheme_of_readRelative h

/-- The scheme of a URL stands at the start of its text. -/
theorem exists_clean_text {text : String}
    (hscheme : splitScheme (clean text) = some (u.scheme, more)) :
    ∃ rest, splitScheme (clean u.text) = some (u.scheme, rest) := by
  have hsplit := splitScheme_of_splitScheme hscheme
  obtain ⟨written, ⟨hchars, -⟩, -, heq⟩ := splitScheme_eq_some_iff.mp (hsplit [])
  obtain rfl : u.scheme.toList = written := (List.append_inj' heq rfl).1
  have hvisible : ∀ c ∈ u.scheme.toList ++ [':'], isEdge c = false := by
    intro c hc
    obtain hc | hc := List.mem_append.mp hc
    · exact isEdge_of_isSchemeChar (hchars c hc)
    · obtain rfl := List.mem_singleton.mp hc
      decide
  obtain ⟨tail, htail⟩ : ∃ tail, u.text = String.ofList (u.scheme.toList ++ [':'] ++ tail) := by
    refine ⟨u.text.toList.drop (u.scheme.toList.length + 1), ?_⟩
    rw [← String.toList_inj, String.toList_ofList]
    simp [Url.text]
  obtain ⟨rest, hclean⟩ := exists_clean_append hvisible (by simp) tail
  refine ⟨rest, ?_⟩
  rw [htail, hclean, List.append_assoc, List.singleton_append, hsplit]

/-! ### Origins -/

theorem origin?_of_isWeb (h : IsWeb u.scheme) :
    u.origin? = u.host.map fun host => ⟨u.scheme, host, u.port.or (defaultPort u.scheme)⟩ := by
  rw [origin?, originWithin, if_neg h.ne_blob, if_pos ⟨h.1, h.2⟩]

/-- Scheme, host and port make the origin. -/
theorem origin?_congr (hweb : IsWeb u.scheme) (hscheme : b.scheme = u.scheme)
    (hhost : b.host = u.host) (hport : b.port = u.port) : b.origin? = u.origin? := by
  rw [origin?_of_isWeb hweb, origin?_of_isWeb (hscheme ▸ hweb), hscheme, hhost, hport]

/-- What has an origin is a URL of the web, or a blob whose path is a URL. -/
theorem origin?_eq_some (h : u.origin? = some o) :
    (IsWeb u.scheme ∧ o.scheme = u.scheme) ∨ 
      (u.scheme = "blob" ∧ ∃ inner, parse u.path = .ok inner) := by
  by_cases hblob : u.scheme = "blob"
  · refine .inr ⟨hblob, ?_⟩
    rw [origin?, originWithin, if_pos hblob] at h
    obtain ⟨inner, hinner, -⟩ := Option.bind_eq_some_iff.mp h
    cases hparse : parse u.path with
    | error e => simp [hparse, Except.toOption] at hinner
    | ok inner => exact ⟨inner, rfl⟩
  · refine .inl ?_
    rw [origin?, originWithin, if_neg hblob] at h
    split at h
    · next hweb =>
      obtain ⟨host, -, rfl⟩ := Option.map_eq_some_iff.mp h
      exact ⟨hweb, rfl⟩
    · cases h

end SiteSnapshot.Url
