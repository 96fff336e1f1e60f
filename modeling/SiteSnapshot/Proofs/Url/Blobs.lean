import Mathlib.Data.List.Induction
import SiteSnapshot.Proofs.Url.Rereading

/-!
# Blobs that are read from their text

A blob has the origin of the URL that is its path. The path is a text of its own, of which
blanks inside are kept, so only the ends of a whole text matter (`clean_of_ends`). A blob that
is read from its own text keeps its path, and so its origin (`origin?_of_resolve_blob_text`).
-/

namespace SiteSnapshot

theorem Percent.mem_getLast?_encode {set : Char → Bool} {text : List Char} {c : Char}
    (h : c ∈ (encode set text).getLast?) : c ∈ text.getLast? ∨ c ∈ escapes := by
  induction text using List.reverseRecOn with
  | nil => simp [encode] at h
  | append_singleton text a _ =>
    rw [encode, List.flatMap_append, List.flatMap_singleton, encodeChar] at h
    split at h
    · simp_all
    · have hoctets : (String.utf8EncodeChar a).flatMap encodeOctet ≠ [] := by
        obtain ⟨b, octets, hb⟩ := List.exists_cons_of_ne_nil (@String.utf8EncodeChar_ne_nil a)
        simp [hb, encodeOctet]
      rw [List.getLast?_append_of_ne_nil _ hoctets] at h
      obtain ⟨b, -, hb⟩ := List.mem_flatMap.mp (List.mem_of_getLast? h)
      exact .inr (mem_escapes_of_mem_encodeOctet hb)

theorem Percent.mem_head?_encode {set : Char → Bool} {text : List Char} {c : Char}
    (h : c ∈ (encode set text).head?) : c ∈ text.head? ∨ c = '%' := by
  match text with
  | [] => simp [encode] at h
  | a :: text =>
    rw [encode, List.flatMap_cons, encodeChar] at h
    split at h
    · exact .inl h
    · obtain ⟨b, octets, hb⟩ := List.exists_cons_of_ne_nil (@String.utf8EncodeChar_ne_nil a)
      rw [hb] at h
      exact .inr (Option.some.inj h).symm

namespace Url

variable {scheme : String} {more rest : List Char} {base base' : Option Url} {u v : Url}

/-! ### Texts with blanks inside -/

/-- What counts of a text ends with a visible character. -/
theorem isEdge_of_mem_getLast?_clean {text : String} {c : Char} (h : c ∈ (clean text).getLast?) :
    isEdge c = false := by
  rw [clean_eq] at h
  generalize (text.toList.dropWhile isEdge).reverse = l at h
  match hl : l.dropWhile isEdge, h with
  | d :: rest, h =>
    have hd : isEdge d = false := by
      have := List.head?_dropWhile_not isEdge l
      simpa [hl] using this
    have hvisible : isBreak d = false := isBreak_of_isEdge hd
    rw [List.reverse_cons, List.filter_append, List.filter_singleton] at h
    simp_all

/-- A text that starts and ends with visible characters and has no line ends counts as it is. -/
theorem clean_of_ends {text : String} (hfirst : ∀ c ∈ text.toList.head?, isEdge c = false)
    (hlast : ∀ c ∈ text.toList.getLast?, isEdge c = false)
    (hbreaks : ∀ c ∈ text.toList, isBreak c = false) : clean text = text.toList := by
  have htrim : ∀ l : List Char, (∀ c ∈ l.head?, isEdge c = false) → l.dropWhile isEdge = l := by
    intro l hl
    match l, hl with
    | [], _ => rfl
    | c :: l, hl => rw [List.dropWhile_cons_of_neg (by simp [hl c rfl])]
  rw [clean_eq, htrim _ hfirst, htrim _ (by simpa using hlast), List.reverse_reverse,
    List.filter_eq_self]
  intro c hc
  simp [hbreaks c hc]

/-! ### Schemes that are not special -/

theorem exists_of_readWithScheme_slash (hother : isSpecialScheme scheme = false)
    (h : readWithScheme base scheme ('/' :: more) = .ok u) :
    u.scheme = scheme ∧ ∃ parts, u.body = .segments parts ∧ (parts = [] → u.host ≠ none) := by
  have hfile : scheme ≠ "file" := by
    rintro rfl
    exact absurd hother (by decide +kernel)
  unfold readWithScheme at h
  rw [if_neg hfile, hother, if_neg Bool.false_ne_true] at h
  split at h
  · obtain ⟨hscheme, ⟨host, hhost⟩, parts, hbody⟩ := exists_of_readAuthority h
    exact ⟨hscheme, parts, hbody, by simp [hhost]⟩
  · obtain ⟨path, query, fragment, hsplit⟩ : ∃ path query fragment,
        splitTail ('/' :: more) = ('/' :: path, query, fragment) := by
      simp [splitTail]
    rw [hsplit] at h
    cases h
    refine ⟨rfl, _, readPath_of_ne_file hfile, ?_⟩
    simp [pushAll_ne_nil (segmentsOf_ne_nil _ _)]

theorem readWithScheme_of_head?_ne (hother : isSpecialScheme scheme = false)
    (hslash : rest.head? ≠ some '/') :
    readWithScheme base scheme rest = .ok (withTail
      { scheme
        body := .fixed (String.ofList (Percent.encode Percent.isControl (splitTail rest).1)) }
      (splitTail rest).2.1 (splitTail rest).2.2) := by
  have hfile : scheme ≠ "file" := by
    rintro rfl
    exact absurd hother (by decide +kernel)
  unfold readWithScheme
  rw [if_neg hfile, hother, if_neg Bool.false_ne_true]
  split
  · simp at hslash
  · have hpath : (splitTail rest).1.head? ≠ some '/' := by
      simp only [splitTail, List.head?_takeWhile, ne_eq, Option.filter_eq_some_iff, not_and]
      exact fun h => absurd h.1 hslash
    dsimp only
    split
    · next path heq => simp [heq] at hpath
    · rfl

/-- Behind the scheme of a URL with segments stands a slash. -/
theorem exists_text_slash {parts : List String} (hbody : u.body = .segments parts)
    (hhost : parts = [] → u.host ≠ none) :
    ∃ more, u.text.toList = u.scheme.toList ++ ':' :: '/' :: more := by
  have hslashes : "//".toList = ['/', '/'] := rfl
  have hcolon : ":".toList = [':'] := rfl
  have hdot : "/.".toList = ['/', '.'] := rfl
  cases hu : u.host with
  | some host =>
    simp [text, hu, String.toList_append, hslashes, hcolon]
  | none =>
    cases parts with
    | nil => exact absurd hu (hhost rfl)
    | cons s parts =>
      simp only [text, hu, hbody, String.toList_append, toList_path hbody, hcolon, slashed_cons]
      split <;> simp

/-! ### Blobs -/

/-- A path that starts with a slash or is empty is no URL, so a blob with it has no origin. -/
theorem origin?_of_segments {parts : List String} (hblob : u.scheme = "blob")
    (hbody : u.body = .segments parts) : u.origin? = none := by
  have hpath : ∀ inner, parse u.path ≠ .ok inner := by
    match parts, hbody with
    | [], hbody =>
      rw [path, hbody]
      intro inner h
      cases h
    | s :: parts, hbody => exact parse_ne_ok_of_slash (toList_path hbody)
  cases horigin : u.origin? with
  | none => rfl
  | some o =>
    obtain ⟨hweb, -⟩ | ⟨-, inner, hinner⟩ := origin?_eq_some horigin
    · exact absurd hblob hweb.ne_blob
    · exact absurd hinner (hpath inner)

/-- The path of a blob makes its origin. -/
theorem origin?_congr_path (hu : u.scheme = "blob") (hv : v.scheme = "blob")
    (hpath : v.path = u.path) : v.origin? = u.origin? := by
  rw [origin?, origin?, originWithin, originWithin, if_pos hu, if_pos hv, hpath]

/-- A text without query and fragment is all path. -/
theorem eq_of_splitTail {path : List Char} (h : splitTail rest = (path, none, none)) :
    path = rest := by
  have htail : ∀ {p : Char → Bool} {l : List Char},
      (l.drop (l.takeWhile p).length).tail? = none → l.takeWhile p = l := by
    intro p l hnone
    have hdrop : l.drop (l.takeWhile p).length = [] := by
      cases hdrop : l.drop (l.takeWhile p).length with
      | nil => rfl
      | cons c rest =>
        rw [hdrop] at hnone
        cases hnone
    exact (List.takeWhile_prefix p).eq_of_length_le (List.drop_eq_nil_iff.mp hdrop)
  simp only [splitTail, Prod.mk.injEq] at h
  obtain ⟨hpath, hquery, hfragment⟩ := h
  rw [← hpath, htail hquery, htail hfragment]

theorem head?_splitTail (rest : List Char) {c : Char} (h : c ∈ (splitTail rest).1.head?) :
    c ∈ rest.head? := by
  simp only [splitTail, List.head?_takeWhile, Option.mem_def, Option.filter_eq_some_iff] at h
  exact h.1.1

theorem ne_of_mem_splitTail (rest : List Char) :
    ∀ c ∈ (splitTail rest).1, c ≠ '#' ∧ c ≠ '?' := by
  intro c hc
  have hhash := List.mem_takeWhile_imp ((List.takeWhile_prefix _).mem hc)
  have hmark := List.mem_takeWhile_imp hc
  exact ⟨by simpa using hhash, by simpa using hmark⟩

theorem splitTail_fst {path : List Char} (hpath : ∀ c ∈ path, c ≠ '#' ∧ c ≠ '?')
    (query fragment : Option String) :
    (splitTail (path ++ (queryText query ++ fragmentText fragment))).1 = path := by
  have hhash : ∀ c ∈ path, (c != '#') = true := fun c hc => by simpa using (hpath c hc).1
  have hmark : ∀ c ∈ path, (c != '?') = true := fun c hc => by simpa using (hpath c hc).2
  simp only [splitTail, List.takeWhile_append_of_pos hhash, List.takeWhile_append_of_pos hmark]
  cases query <;> cases fragment <;> simp [queryText, fragmentText]

/-- A blob with a fixed path as text. -/
theorem toList_text_of_fixed {path : String} (hblob : u.scheme = "blob") (hhost : u.host = none)
    (hbody : u.body = .fixed path) :
    u.text.toList =
      "blob".toList ++ ':' :: (path.toList ++ (queryText u.query ++ fragmentText u.fragment)) := by
  have hquery : (u.query.elim "" ("?" ++ ·)).toList = queryText u.query := by
    cases u.query <;> simp [queryText]
  have hfragment : (u.fragment.elim "" ("#" ++ ·)).toList = fragmentText u.fragment := by
    cases u.fragment <;> simp [fragmentText]
  have hcolon : ":".toList = [':'] := rfl
  simp only [text, hblob, hhost, hbody, Url.path, String.toList_append, hquery, hfragment, hcolon]
  simp

/-- What is read behind the scheme of a blob, if that is not rooted. -/
def fixedBlob (rest : List Char) : Url :=
  withTail
    { scheme := "blob"
      body := .fixed (String.ofList (Percent.encode Percent.isControl (splitTail rest).1)) }
    (splitTail rest).2.1 (splitTail rest).2.2

theorem isEdge_of_mem_tail : ∀ c ∈ queryText (fixedBlob rest).query ++
    fragmentText (fixedBlob rest).fragment, isEdge c = false := by
  have hother : isSpecialScheme "blob" = false := by decide +kernel
  intro c hc
  obtain hc | hc := List.mem_append.mp hc
  · refine isEdge_of_queryText (fun q hq d hd => ?_) c hc
    obtain ⟨q', -, rfl⟩ := Option.map_eq_some_iff.mp hq
    have hplain : Percent.isPlain Percent.inQuery d = true := by
      change d ∈ (writtenQuery "blob" q').toList at hd
      simp only [writtenQuery, hother, Bool.false_eq_true, if_false, String.toList_ofList] at hd
      exact Percent.isPlain_inQuery_of_mem_encode hd
    exact isEdge_of_isPlain (fun c hc => by simp_all [Percent.inQuery]) hplain
  · refine isEdge_of_fragmentText (fun f hf => ?_) c hc
    obtain ⟨f', -, rfl⟩ := Option.map_eq_some_iff.mp hf
    exact isPlain_of_writtenFragment f'

/-- The text of a blob ends with a visible character if what it was read from does. -/
theorem isEdge_of_mem_getLast?_text (h : ∀ c ∈ rest.getLast?, isEdge c = false) :
    ∀ c ∈ (fixedBlob rest).text.toList.getLast?, isEdge c = false := by
  have htext : (fixedBlob rest).text.toList =
      ['b', 'l', 'o', 'b', ':'] ++ Percent.encode Percent.isControl (splitTail rest).1 ++
        (queryText (fixedBlob rest).query ++ fragmentText (fixedBlob rest).fragment) := by
    rw [toList_text_of_fixed rfl rfl rfl, String.toList_ofList]
    simp
  intro c hc
  rw [htext] at hc
  by_cases htail : queryText (fixedBlob rest).query ++ fragmentText (fixedBlob rest).fragment = []
  · have hnone : splitTail rest = ((splitTail rest).1, none, none) := by
      simp only [List.append_eq_nil_iff] at htail
      ext1
      · rfl
      · ext1
        · cases hquery : (splitTail rest).2.1 <;>
            simp_all [fixedBlob, withTail_eq, queryText]
        · cases hfragment : (splitTail rest).2.2 <;>
            simp_all [fixedBlob, withTail_eq, fragmentText]
    rw [htail, List.append_nil, eq_of_splitTail hnone] at hc
    by_cases hempty : Percent.encode Percent.isControl rest = []
    · rw [hempty] at hc
      obtain rfl : ':' = c := by simpa using hc
      decide
    · rw [List.getLast?_append_of_ne_nil _ hempty] at hc
      obtain hc | hc := Percent.mem_getLast?_encode hc
      · exact h c hc
      · have hall : Percent.escapes.all (fun c => !isEdge c) = true := by decide
        simpa using List.all_eq_true.mp hall c hc
  · rw [List.getLast?_append_of_ne_nil _ htail] at hc
    exact isEdge_of_mem_tail c (List.mem_of_getLast? hc)

theorem isBreak_of_mem_text : ∀ c ∈ (fixedBlob rest).text.toList, isBreak c = false := by
  rw [toList_text_of_fixed rfl rfl rfl]
  intro c hc
  rw [List.mem_append, List.mem_cons, List.mem_append] at hc
  obtain hc | rfl | hc | hc := hc
  · revert c
    simp [isBreak]
  · decide
  · rw [String.toList_ofList] at hc
    have hplain : Percent.isPlain Percent.isControl c = true :=
      Percent.isPlain_isControl_of_mem_encode hc
    simp [isBreak, ne_of_isPlain hplain (show Percent.isControl '\t' = true by decide),
      ne_of_isPlain hplain (show Percent.isControl '\n' = true by decide),
      ne_of_isPlain hplain (show Percent.isControl '\r' = true by decide)]
  · exact isBreak_of_isEdge (isEdge_of_mem_tail c hc)

/-- The text of a blob that is not rooted is read as the same path. -/
theorem path_of_readWithScheme_text (hslash : rest.head? ≠ some '/') (base : Option Url) :
    ∃ v, readWithScheme base "blob" ((fixedBlob rest).path.toList ++
        (queryText (fixedBlob rest).query ++ fragmentText (fixedBlob rest).fragment)) = .ok v ∧
      v.scheme = "blob" ∧ v.path = (fixedBlob rest).path := by
  have hpath : (fixedBlob rest).path.toList = Percent.encode Percent.isControl (splitTail rest).1 :=
    String.toList_ofList
  have hends : ∀ c ∈ (fixedBlob rest).path.toList, c ≠ '#' ∧ c ≠ '?' := by
    intro c hc
    rw [hpath] at hc
    obtain ⟨hmem, -⟩ | hescape := Percent.mem_or_mem_escapes_of_mem_encode hc
    · exact ne_of_mem_splitTail rest c hmem
    · have hall : Percent.escapes.all (fun c => c != '#' && c != '?') = true := by decide
      simpa using List.all_eq_true.mp hall c hescape
  have hhead : ((fixedBlob rest).path.toList ++
      (queryText (fixedBlob rest).query ++ fragmentText (fixedBlob rest).fragment)).head? ≠
        some '/' := by
    rw [List.head?_append, hpath]
    cases hencode : (Percent.encode Percent.isControl (splitTail rest).1).head? with
    | none =>
      cases (fixedBlob rest).query <;> cases (fixedBlob rest).fragment <;>
        simp [queryText, fragmentText]
    | some c =>
      rintro hc
      obtain rfl : c = '/' := by simpa using hc
      obtain hmem | hpercent := Percent.mem_head?_encode hencode
      · exact hslash (head?_splitTail rest hmem)
      · exact absurd hpercent (by decide)
  refine ⟨_, readWithScheme_of_head?_ne (by decide +kernel) hhead, rfl, ?_⟩
  have hplain : ∀ c ∈ (fixedBlob rest).path.toList, Percent.isPlain Percent.isControl c = true :=
    fun c hc => Percent.isPlain_isControl_of_mem_encode (hpath ▸ hc)
  change String.ofList (Percent.encode Percent.isControl _) = _
  rw [splitTail_fst hends, Percent.encode_of_isPlain hplain, String.ofList_toList]

/-- A blob is read from its text with the same path, and so with the same origin. -/
theorem origin?_of_resolve_blob_text {text : String}
    (hscheme : splitScheme (clean text) = some ("blob", rest)) (h : resolve base text = .ok u)
    (hv : resolve base' u.text = .ok v) : v.origin? = u.origin? := by
  have hother : isSpecialScheme "blob" = false := by decide +kernel
  have hsplit : ∀ more, splitScheme ("blob".toList ++ ':' :: more) = some ("blob", more) :=
    splitScheme_of_splitScheme hscheme
  rw [resolve_of_scheme hscheme] at h
  by_cases hslash : rest.head? = some '/'
  · obtain ⟨rest, rfl⟩ := List.head?_eq_some_iff.mp hslash
    obtain ⟨hu, parts, hbody, hhost⟩ := exists_of_readWithScheme_slash hother h
    obtain ⟨more, htext⟩ := exists_text_slash hbody hhost
    have hvisible : ∀ c ∈ "blob:/".toList, isEdge c = false := by
      simp [isEdge]
    obtain ⟨more', hclean⟩ := exists_clean_append hvisible (by decide) more
    have hclean : clean u.text = "blob".toList ++ ':' :: '/' :: more' := by
      rw [← String.ofList_toList (s := u.text), htext, hu]
      exact hclean
    rw [resolve_of_scheme (hclean ▸ hsplit _)] at hv
    obtain ⟨hv, parts', hbody', -⟩ := exists_of_readWithScheme_slash hother hv
    rw [origin?_of_segments hu hbody, origin?_of_segments hv hbody']
  · rw [readWithScheme_of_head?_ne hother hslash] at h
    obtain rfl : fixedBlob rest = u := Except.ok.inj h
    have hlast : ∀ c ∈ rest.getLast?, isEdge c = false := by
      intro c hc
      obtain ⟨written, -, -, htext⟩ := splitScheme_eq_some_iff.mp hscheme
      obtain ⟨l, rfl⟩ := List.getLast?_eq_some_iff.mp hc
      have : c ∈ (clean text).getLast? := by
        rw [htext, ← List.cons_append, ← List.append_assoc, List.getLast?_concat]
        rfl
      exact isEdge_of_mem_getLast?_clean this
    have hclean : clean (fixedBlob rest).text = (fixedBlob rest).text.toList :=
      clean_of_ends (by rw [toList_text_of_fixed rfl rfl rfl]; simp [isEdge])
        (isEdge_of_mem_getLast?_text hlast) isBreak_of_mem_text
    rw [toList_text_of_fixed rfl rfl rfl] at hclean
    rw [resolve_of_scheme (hclean ▸ hsplit _)] at hv
    obtain ⟨v', hv', hscheme', hpath'⟩ := path_of_readWithScheme_text hslash base'
    obtain rfl : v' = v := Except.ok.inj (hv'.symm.trans hv)
    exact origin?_congr_path rfl hscheme' hpath'

end Url

end SiteSnapshot
