import Mathlib.Data.List.Basic
import SiteSnapshot.Proofs.Url.Normal

/-!
# Ways below a URL

A text is a **way** from a URL if it has no scheme of its own, or that of the URL
(`wayFrom?`). A way that does not start with a slash leads from the directory of the URL
(`join_of_wayFrom?`), and if no step of it leads above that, what it leads to lies below
(`exists_join_of_descends`).

The path and query of a URL in normal form are read back from their text: from the directory
of any URL, and from its root, they lead to the same segments (`ReadsBack.below_eq`,
`ReadsBack.join_eq`).
-/

namespace SiteSnapshot.Url

variable {scheme text : String} {way path : List Char} {b u : Url}
  {dir parts : List String} {last s : String}

/-- What a text says relative to a URL with a scheme, if it is relative to such a URL. -/
def wayFrom? (scheme text : String) : Option (List Char) :=
  match splitScheme (clean text) with
  | none => some (clean text)
  | some (own, rest) => if own = scheme then some rest else none

/-- True for a way that starts at a root, and not in a directory. -/
def startsAtRoot (way : List Char) : Bool :=
  (way.head?.map (endsSegment true)).getD false

/-- The URL that a way leads to from the directory of a URL. Without a path the way stays at
the URL itself, whose query it keeps if it has none. -/
def below (b : Url) (way : List Char) : Url :=
  let tail := splitTail way
  { b with
    body :=
      if tail.1 = [] then b.body
      else .segments (pushPath (isSpecialScheme b.scheme) false (directoryOf b) tail.1).reverse
    query :=
      if tail.1 = [] then (tail.2.1.map (writtenQuery b.scheme)).or b.query
      else tail.2.1.map (writtenQuery b.scheme)
    fragment := tail.2.2.map writtenFragment }

theorem readRelative_of_not_startsAtRoot (h : startsAtRoot way = false) :
    readRelative b way = .ok (below b way) := by
  match way, h with
  | [], _ => simp [readRelative, below, splitTail]
  | c :: way, h =>
    have hc : endsSegment true c = false := by simpa [startsAtRoot] using h
    rw [readRelative_cons, hc]
    dsimp only
    rw [if_neg Bool.false_ne_true]
    by_cases hpath : (splitTail (c :: way)).1 = []
    · rw [if_pos (by simpa using hpath)]
      cases hquery : (splitTail (c :: way)).2.1 <;>
        simp [below, hpath, hquery, withFragment_eq, withTail_eq]
    · rw [if_neg (by simpa using hpath)]
      simp [below, hpath, withTail_eq]

/-- A way that starts in the directory leads below the URL. -/
theorem join_of_wayFrom? (hweb : IsWeb b.scheme) (hfixed : b.isFixed = false)
    (h : wayFrom? b.scheme text = some way) (hroot : startsAtRoot way = false) :
    b.join text = .ok (below b way) := by
  unfold wayFrom? at h
  unfold join
  split at h
  · next hscheme =>
    cases h
    obtain ⟨fragment, hclean, heq⟩ | heq := resolve_of_base hscheme b
    · rw [heq, hclean]
      simp [below, splitTail, withFragment_eq]
    · rw [heq, hfixed, if_neg Bool.false_ne_true, if_neg hweb.2]
      exact readRelative_of_not_startsAtRoot hroot
  · next own rest hscheme =>
    split at h
    · next hown =>
      cases h
      have hslashes : slashesOf way < 2 := by
        match way, hroot with
        | [], _ => decide
        | c :: way, hroot =>
          have hc : endsSegment true c = false := by simpa [startsAtRoot] using hroot
          simp [slashesOf, hc]
      rw [resolve_of_scheme hscheme, hown, readWithScheme_of_isWeb hweb hslashes]
      exact readRelative_of_not_startsAtRoot hroot
    · cases h

/-- A text that starts at the root leads to a path of its own. -/
theorem join_of_root (hweb : IsWeb b.scheme) (hfixed : b.isFixed = false)
    (hclean : clean text = '/' :: way) (hroot : startsAtRoot way = false) :
    b.join text = .ok (withTail { b with body := readPath b.scheme [] (splitTail way).1 }
      (splitTail way).2.1 (splitTail way).2.2) := by
  unfold join
  have hscheme : splitScheme (clean text) = none := hclean ▸ splitScheme_slash way
  obtain ⟨fragment, hfragment, -⟩ | heq := resolve_of_base hscheme b
  · rw [hclean] at hfragment
    simp at hfragment
  · rw [heq, hfixed, if_neg Bool.false_ne_true, if_neg hweb.2, hclean, readRelative_cons,
      if_pos (by decide), if_neg (by simpa [startsAtRoot] using hroot)]

/-! ### Ways that stay below -/

/-- True for a text that is a way from a directory and that no step leads above it. -/
def descends (scheme text : String) : Bool :=
  match wayFrom? scheme text with
  | none => false
  | some way => !startsAtRoot way && staysBelow [] (segmentsOf true (splitTail way).1)

theorem exists_body_below (hweb : IsWeb b.scheme) (hbody : b.body = .segments (dir ++ [last]))
    (hstays : staysBelow [] (segmentsOf true (splitTail way).1) = true) :
    ∃ more, more ≠ [] ∧ (below b way).body = .segments (dir ++ more) := by
  by_cases hpath : (splitTail way).1 = []
  · exact ⟨[last], by simp, by simp [below, hpath, hbody]⟩
  · have hdirectory : directoryOf b = dir.reverse := by simp [directoryOf, hbody]
    have hpush : pushAll false dir.reverse (segmentsOf true (splitTail way).1) =
        pushAll false [] (segmentsOf true (splitTail way).1) ++ dir.reverse :=
      pushAll_append_of_staysBelow hstays
    refine ⟨(pushAll false [] (segmentsOf true (splitTail way).1)).reverse,
      by simpa using pushAll_ne_nil (segmentsOf_ne_nil true _), ?_⟩
    simp [below, hpath, hweb.1, pushPath_eq, hdirectory, hpush]

/-- A text that descends leads below the directory of a URL, on the same host. -/
theorem exists_join_of_descends (hweb : IsWeb b.scheme)
    (hbody : b.body = .segments (dir ++ [last])) (h : descends b.scheme text = true) :
    ∃ more query fragment, more ≠ [] ∧
      b.join text = .ok { b with body := .segments (dir ++ more), query, fragment } := by
  unfold descends at h
  split at h
  · cases h
  · next way hway =>
    simp only [Bool.and_eq_true, Bool.not_eq_true'] at h
    obtain ⟨more, hne, hmore⟩ := exists_body_below hweb hbody h.2
    have hfixed : b.isFixed = false := by simp [isFixed, hbody]
    refine ⟨more, (below b way).query, (below b way).fragment, hne, ?_⟩
    rw [join_of_wayFrom? hweb hfixed hway h.1, ← hmore]
    rfl

/-! ### Paths and queries that are read back -/

/-- A query as text, behind its question mark. -/
def queryText (query : Option String) : List Char :=
  query.elim [] fun q => '?' :: q.toList

theorem toList_pathAndQuery (h : u.body = .segments parts) :
    u.pathAndQuery.toList = slashed parts ++ queryText u.query := by
  rw [pathAndQuery, String.toList_append, toList_path h]
  cases u.query <;> simp [queryText]

theorem isEdge_of_isPlain {set : Char → Bool} {c : Char}
    (hset : ∀ c, set c = false → Percent.isControl c = false ∧ c ≠ ' ')
    (h : Percent.isPlain set c = true) : isEdge c = false := by
  obtain ⟨hcontrol, hspace⟩ := hset c (Percent.isPlain_iff.mp h).2
  have hne : c.toNat ≠ 0x20 := fun h => hspace (Char.toNat_inj.mp h)
  simp only [Percent.isControl, Bool.or_eq_false_iff, decide_eq_false_iff_not] at hcontrol
  simp only [isEdge, decide_eq_false_iff_not]
  omega

theorem isEdge_of_isPlain_inPath {c : Char} (h : Percent.isPlain Percent.inPath c = true) :
    isEdge c = false :=
  isEdge_of_isPlain (fun c hc => by simp_all [Percent.inPath, Percent.inFragment]) h

theorem isEdge_of_isPlain_inSpecialQuery {c : Char}
    (h : Percent.isPlain Percent.inSpecialQuery c = true) : isEdge c = false :=
  isEdge_of_isPlain (fun c hc => by simp_all [Percent.inSpecialQuery, Percent.inQuery]) h

theorem ne_of_isPlain {set : Char → Bool} {c d : Char} (h : Percent.isPlain set c = true)
    (hd : set d = true) : c ≠ d := by
  rintro rfl
  rw [(Percent.isPlain_iff.mp h).2] at hd
  cases hd

/-- A path without a question mark and its query are taken apart again. -/
theorem splitTail_append {query : Option String} (hpath : ∀ c ∈ path, c ≠ '#' ∧ c ≠ '?')
    (hquery : ∀ q, query = some q → '#' ∉ q.toList) :
    splitTail (path ++ queryText query) = (path, query.map String.toList, none) := by
  have hhash : ∀ c ∈ path ++ queryText query, (c != '#') = true := by
    intro c hc
    obtain hc | hc := List.mem_append.mp hc
    · simpa using (hpath c hc).1
    · match query, hquery with
      | some q, hquery =>
        obtain rfl | hc := List.mem_cons.mp hc
        · decide
        · have : c ≠ '#' := fun h => hquery q rfl (h ▸ hc)
          simpa using this
  have hfragment : (path ++ queryText query).takeWhile (· != '#') = path ++ queryText query := by
    rw [← List.append_nil (path ++ queryText query), List.takeWhile_append_of_pos hhash,
      List.takeWhile_nil]
  have hbefore : (path ++ queryText query).takeWhile (· != '?') = path := by
    rw [List.takeWhile_append_of_pos fun c hc => by simpa using (hpath c hc).2]
    cases query <;> simp [queryText]
  simp only [splitTail, hfragment, hbefore]
  cases query <;> simp [queryText]

/-- The parts of a path and a query that are read back: settled segments, and a query of
plain characters. -/
structure ReadsBack (parts : List String) (query : Option String) : Prop where
  settled : ∀ s ∈ parts, IsSettled s
  plain : ∀ q, query = some q →
    ∀ c ∈ q.toList, Percent.isPlain Percent.inSpecialQuery c = true

variable {query : Option String}

theorem writtenQuery_of_isPlain (hweb : IsWeb scheme) {q : String}
    (h : ∀ c ∈ q.toList, Percent.isPlain Percent.inSpecialQuery c = true) :
    writtenQuery scheme q.toList = q := by
  simp only [writtenQuery, hweb.1, if_true, Percent.encode_of_isPlain h, String.ofList_toList]

namespace ReadsBack

theorem mem_path (h : ReadsBack (s :: parts) query) {c : Char}
    (hc : c ∈ s.toList ++ slashed parts) :
    c = '/' ∨ (Percent.isPlain Percent.inPath c = true ∧ endsSegment true c = false) := by
  obtain hc | hc := List.mem_append.mp hc
  · exact .inr ((h.settled s (.head _)).written c hc)
  · obtain ⟨t, ht, hc⟩ := List.mem_flatMap.mp hc
    obtain rfl | hc := List.mem_cons.mp hc
    · exact .inl rfl
    · exact .inr ((h.settled t (.tail _ ht)).written c hc)

theorem splitTail_eq (h : ReadsBack (s :: parts) query) :
    splitTail (s.toList ++ slashed parts ++ queryText query) =
      (s.toList ++ slashed parts, query.map String.toList, none) := by
  refine splitTail_append (fun c hc => ?_) fun q hq hmem => ?_
  · obtain rfl | ⟨hplain, -⟩ := h.mem_path hc
    · decide
    · exact ⟨ne_of_isPlain hplain (by decide), ne_of_isPlain hplain (by decide)⟩
  · exact ne_of_isPlain (h.plain q hq _ hmem) (by decide) rfl

theorem segmentsOf_eq (h : ReadsBack (s :: parts) query) :
    segmentsOf true (s.toList ++ slashed parts) = s :: parts :=
  segmentsOf_slashed (h.settled s (.head _)).written
    fun t ht => (h.settled t (.tail _ ht)).written

theorem writtenQuery_eq (h : ReadsBack parts query) (hweb : IsWeb scheme) :
    (query.map String.toList).map (writtenQuery scheme) = query := by
  cases hq : query with
  | none => rfl
  | some q => simp [writtenQuery_of_isPlain hweb (h.plain q hq)]

/-- Every character of a path and a query counts. -/
theorem clean_eq (h : ReadsBack (s :: parts) query) :
    clean (String.ofList (s.toList ++ slashed parts ++ queryText query)) =
      s.toList ++ slashed parts ++ queryText query := by
  rw [clean_of_forall, String.toList_ofList]
  rw [String.toList_ofList]
  intro c hc
  obtain hc | hc := List.mem_append.mp hc
  · obtain rfl | ⟨hplain, -⟩ := h.mem_path hc
    · decide
    · exact isEdge_of_isPlain_inPath hplain
  · match query, h with
    | some q, h =>
      obtain rfl | hc := List.mem_cons.mp hc
      · decide
      · exact isEdge_of_isPlain_inSpecialQuery (h.plain q rfl c hc)

theorem startsAtRoot_eq_false (h : ReadsBack (s :: parts) query) (hempty : s = "" → parts = []) :
    startsAtRoot (s.toList ++ slashed parts ++ queryText query) = false := by
  match hs : s.toList with
  | [] =>
    rw [hempty (String.toList_eq_nil_iff.mp hs)]
    cases query <;> simp [startsAtRoot, queryText, endsSegment]
  | c :: rest =>
    have hc : endsSegment true c = false :=
      ((h.settled s (.head _)).written c (hs ▸ List.mem_cons_self)).2
    simpa [startsAtRoot] using hc

/-- Where a path and its query lead to as a way: to their own segments and query. -/
theorem below_eq (h : ReadsBack (s :: parts) query) (hweb : IsWeb b.scheme) :
    below b (s.toList ++ slashed parts ++ queryText query) =
      { b with
        body :=
          if s = "" ∧ parts = [] then b.body
          else .segments ((directoryOf b).reverse ++ s :: parts)
        query := if s = "" ∧ parts = [] then query.or b.query else query
        fragment := none } := by
  have hnil : s.toList ++ slashed parts = [] ↔ s = "" ∧ parts = [] := by
    cases parts <;> simp
  simp only [below, h.splitTail_eq, h.writtenQuery_eq hweb, hnil, hweb.1, pushPath_eq,
    h.segmentsOf_eq, pushAll_of_isSettled h.settled, List.reverse_append, List.reverse_reverse,
    Option.map_none]

theorem clean_slashed (h : ReadsBack (s :: parts) query) :
    clean (String.ofList (slashed (s :: parts) ++ queryText query)) =
      '/' :: (s.toList ++ slashed parts ++ queryText query) := by
  have hroot : ReadsBack ("" :: s :: parts) query := by
    refine ⟨fun t ht => ?_, h.plain⟩
    obtain rfl | ht := List.mem_cons.mp ht
    · exact isSettled_empty
    · exact h.settled t ht
  exact hroot.clean_eq

/-- The path and its query, read from the root. -/
theorem join_eq (h : ReadsBack (s :: parts) query) (hempty : s = "" → parts = [])
    (hweb : IsWeb b.scheme) (hfixed : b.isFixed = false) :
    b.join (String.ofList (slashed (s :: parts) ++ queryText query)) =
      .ok { b with body := .segments (s :: parts), query, fragment := none } := by
  rw [join_of_root hweb hfixed h.clean_slashed (h.startsAtRoot_eq_false hempty), h.splitTail_eq,
    withTail_eq, readPath_of_ne_file hweb.2, hweb.1, h.segmentsOf_eq,
    pushAll_of_isSettled h.settled, h.writtenQuery_eq hweb]
  simp

/-- A path and its query descend, unless they start like a URL with a scheme. -/
theorem descends_eq_true (h : ReadsBack (s :: parts) query) (hempty : s = "" → parts = [])
    (hscheme : splitScheme (s.toList ++ slashed parts ++ queryText query) = none)
    (scheme : String) :
    descends scheme (String.ofList (s.toList ++ slashed parts ++ queryText query)) = true := by
  rw [descends, wayFrom?, h.clean_eq, hscheme]
  simp only [h.startsAtRoot_eq_false hempty, h.splitTail_eq, h.segmentsOf_eq,
    staysBelow_of_forall fun t ht => (h.settled t ht).doubleDot]
  rfl

/-- A path that starts with one slash is without it what stands behind. -/
theorem dropWhile_slashed (h : ReadsBack (s :: parts) query) (hempty : s = "" → parts = []) :
    (slashed (s :: parts) ++ queryText query).dropWhile (· == '/') =
      s.toList ++ slashed parts ++ queryText query := by
  rw [slashed_cons, List.cons_append, List.dropWhile_cons_of_pos (by decide)]
  match hs : s.toList with
  | [] =>
    rw [hempty (String.toList_eq_nil_iff.mp hs)]
    cases query <;> simp [queryText]
  | c :: tail =>
    have hc : endsSegment true c = false :=
      ((h.settled s (.head _)).written c (hs ▸ List.mem_cons_self)).2
    have hslash : (c == '/') = false := by
      simp only [endsSegment, Bool.or_eq_false_iff] at hc
      exact hc.1
    rw [List.cons_append, List.cons_append, List.dropWhile_cons_of_neg (by simp [hslash])]

/-- A path without its slashes in front is the path of its segments behind the empty ones. -/
theorem exists_dropWhile_slashed (h : ReadsBack parts query) (hne : parts ≠ []) :
    ∃ s rest, ReadsBack (s :: rest) query ∧ (s = "" → rest = []) ∧
      (slashed parts ++ queryText query).dropWhile (· == '/') =
        s.toList ++ slashed rest ++ queryText query := by
  induction parts with
  | nil => exact absurd rfl hne
  | cons s rest ih =>
    by_cases hempty : s = "" → rest = []
    · exact ⟨s, rest, h, hempty, h.dropWhile_slashed hempty⟩
    · obtain ⟨rfl, hrest⟩ := Classical.not_imp.mp hempty
      rw [slashed_cons, List.cons_append, List.dropWhile_cons_of_pos (by decide)]
      exact ih ⟨fun u hu => h.settled u (.tail _ hu), h.plain⟩ hrest

end ReadsBack

end SiteSnapshot.Url
