import Mathlib.Data.List.Basic
import SiteSnapshot.Proofs.Url.Encoding
import SiteSnapshot.Url.Parse

/-!
# Segments of a path

A path is read segment by segment (`pushPath_eq`): `segmentsOf` are the segments as they are
written, and `pushAll` adds them to those of the base. What results is **settled**: no
segment of it steps anywhere or is written in another way. So a settled path that is read
again stays as it is (`segmentsOf_slashed`, `pushAll_of_isSettled`).

A path **stays below** its place if no step up leads above it (`staysBelow`). Then its
segments are added behind those that were there (`pushAll_append_of_staysBelow`).
-/

namespace SiteSnapshot.Url

/-- The segments of a path as they are written. -/
def segmentsOf (special : Bool) (path : List Char) : List String :=
  (path.splitOnP (endsSegment special)).map fun s =>
    String.ofList (Percent.encode Percent.inPath s)

/-- Adds segments behind those so far, latest first. -/
def pushAll (file : Bool) (done : List String) : List String → List String
  | [] => done
  | [s] => pushSegment file done s true
  | s :: t :: rest => pushAll file (pushSegment file done s false) (t :: rest)

variable {special file last : Bool} {done own parts segments : List String} {s : String}
  {path rest : List Char}

theorem segmentsOf_ne_nil (special : Bool) (path : List Char) : segmentsOf special path ≠ [] := by
  simp [segmentsOf, List.splitOnP_ne_nil]

theorem pushAll_cons (h : segments ≠ []) :
    pushAll file done (s :: segments) = pushAll file (pushSegment file done s false) segments := by
  obtain ⟨t, rest, rfl⟩ := List.exists_cons_of_ne_nil h
  rfl

theorem modifyHead_self {α : Type} (l : List α) : l.modifyHead (fun a => a) = l := by
  cases l <;> rfl

theorem pushPath_go_eq (special file : Bool) (done : List String) (segment path : List Char) :
    pushPath.go special file done segment path =
      pushAll file done
        (((path.splitOnP (endsSegment special)).modifyHead (segment.reverse ++ ·)).map
          fun s => String.ofList (Percent.encode Percent.inPath s)) := by
  induction path generalizing done segment with
  | nil => simp [pushPath.go, pushPath.finish, pushAll]
  | cons c path ih =>
    rw [pushPath.go, List.splitOnP_cons_eq_if_modifyHead]
    split
    · rw [ih, List.modifyHead_cons, List.map_cons,
        pushAll_cons (by simp [List.splitOnP_ne_nil])]
      simp [pushPath.finish, modifyHead_self]
    · rw [ih, List.modifyHead_modifyHead]
      congr 3
      funext l
      simp

/-- A path is read segment by segment. -/
theorem pushPath_eq (special file : Bool) (done : List String) (path : List Char) :
    pushPath special file done path = pushAll file done (segmentsOf special path) := by
  rw [pushPath, pushPath_go_eq]
  simp [segmentsOf, modifyHead_self]

/-- The path of a URL of the web, read below the given segments. -/
theorem readPath_of_ne_file {scheme : String} (h : scheme ≠ "file") :
    readPath scheme done path =
      .segments (pushAll false done (segmentsOf (isSpecialScheme scheme) path)).reverse := by
  have hfile : (scheme == "file") = false := by simpa using h
  simp [readPath, hfile, trimFile, pushPath_eq]

/-! ### Settled segments -/

/-- A segment that is written as it is in a URL of the web. -/
def IsWritten (s : String) : Prop :=
  ∀ c ∈ s.toList, Percent.isPlain Percent.inPath c = true ∧ endsSegment true c = false

/-- A segment that stays as it is in the path of a URL of the web. -/
structure IsSettled (s : String) : Prop where
  written : IsWritten s
  singleDot : isSingleDot s = false
  doubleDot : isDoubleDot s = false

theorem isSettled_empty : IsSettled "" where
  written := by simp [IsWritten]
  singleDot := by decide +kernel
  doubleDot := by decide +kernel

theorem not_mem_of_mem_splitOnP {α : Type} {p : α → Bool} {l piece : List α} {a : α}
    (hpiece : piece ∈ l.splitOnP p) (ha : a ∈ piece) : p a = false := by
  induction l generalizing piece with
  | nil => simp_all
  | cons b l ih =>
    rw [List.splitOnP_cons_eq_if_modifyHead] at hpiece
    split at hpiece
    · obtain rfl | hpiece := List.mem_cons.mp hpiece
      · simp at ha
      · exact ih hpiece ha
    · next hb =>
      obtain ⟨first, others, heq⟩ := List.exists_cons_of_ne_nil (List.splitOnP_ne_nil p l)
      rw [heq, List.modifyHead_cons] at hpiece
      obtain rfl | hpiece := List.mem_cons.mp hpiece
      · obtain rfl | ha := List.mem_cons.mp ha
        · simpa using hb
        · exact ih (heq ▸ List.mem_cons_self) ha
      · exact ih (heq ▸ List.mem_cons_of_mem _ hpiece) ha

theorem isWritten_of_mem_segmentsOf (h : s ∈ segmentsOf true path) : IsWritten s := by
  obtain ⟨piece, hpiece, rfl⟩ := List.mem_map.mp h
  intro c hc
  rw [String.toList_ofList] at hc
  refine ⟨Percent.isPlain_inPath_of_mem_encode hc, ?_⟩
  obtain ⟨hmem, -⟩ | hescape := Percent.mem_or_mem_escapes_of_mem_encode hc
  · exact not_mem_of_mem_splitOnP hpiece hmem
  · have hall : Percent.escapes.all (fun c => !endsSegment true c) = true := by decide
    simpa using List.all_eq_true.mp hall c hescape

theorem mem_stepUp (h : s ∈ stepUp done) : s ∈ done := by
  match done, h with
  | t :: done, h =>
    rw [stepUp] at h
    split at h
    · exact h
    · exact .tail _ h

/-- What holds one segment at a time: a pushed segment is settled if it is written. -/
theorem isSettled_of_mem_pushSegment (hdone : ∀ t ∈ done, IsSettled t) (hs : IsWritten s) :
    ∀ t ∈ pushSegment false done s last, IsSettled t := by
  intro t ht
  rw [pushSegment] at ht
  split at ht
  · have hup : ∀ t ∈ stepUp done, IsSettled t := fun t h => hdone t (mem_stepUp h)
    cases last <;> grind [isSettled_empty]
  · split at ht
    · cases last <;> grind [isSettled_empty]
    · next hdouble hsingle =>
      rw [Bool.false_and, Bool.false_and, if_neg Bool.false_ne_true] at ht
      obtain rfl | ht := List.mem_cons.mp ht
      · exact ⟨hs, by simpa using hsingle, by simpa using hdouble⟩
      · exact hdone t ht

theorem isSettled_of_mem_pushAll (hdone : ∀ t ∈ done, IsSettled t)
    (hsegments : ∀ t ∈ segments, IsWritten t) : ∀ t ∈ pushAll false done segments, IsSettled t := by
  fun_induction pushAll false done segments with
  | case1 => exact hdone
  | case2 done s => exact isSettled_of_mem_pushSegment hdone (hsegments s (.head _))
  | case3 done s t rest ih =>
    exact ih (isSettled_of_mem_pushSegment hdone (hsegments s (.head _)))
      fun u hu => hsegments u (.tail _ hu)

theorem pushSegment_ne_nil : pushSegment file done s true ≠ [] := by
  unfold pushSegment
  grind

theorem pushAll_ne_nil (h : segments ≠ []) : pushAll file done segments ≠ [] := by
  fun_induction pushAll file done segments with
  | case1 => exact absurd rfl h
  | case2 => exact pushSegment_ne_nil
  | case3 _ _ _ _ ih => exact ih (by simp)

theorem pushSegment_of_isSettled (h : IsSettled s) : pushSegment false done s last = s :: done := by
  simp [pushSegment, h.singleDot, h.doubleDot]

/-- Settled segments are added as they are. -/
theorem pushAll_of_isSettled (h : ∀ t ∈ segments, IsSettled t) :
    pushAll false done segments = segments.reverse ++ done := by
  fun_induction pushAll false done segments with
  | case1 => rfl
  | case2 done s => simpa using pushSegment_of_isSettled (h s (.head _))
  | case3 done s t rest ih =>
    rw [ih fun u hu => h u (.tail _ hu), pushSegment_of_isSettled (h s (.head _))]
    simp

/-! ### Paths as text -/

/-- Segments as text, each behind a slash. -/
def slashed (parts : List String) : List Char :=
  parts.flatMap fun s => '/' :: s.toList

@[simp]
theorem slashed_nil : slashed [] = [] := rfl

@[simp]
theorem slashed_cons (s : String) (parts : List String) :
    slashed (s :: parts) = '/' :: (s.toList ++ slashed parts) := rfl

@[simp]
theorem slashed_append (parts more : List String) :
    slashed (parts ++ more) = slashed parts ++ slashed more :=
  List.flatMap_append

theorem intercalate_eq_slashed (parts : List String) (h : parts ≠ []) :
    '/' :: ("/".intercalate parts).toList = slashed parts := by
  rw [String.toList_intercalate]
  induction parts with
  | nil => exact absurd rfl h
  | cons s rest ih =>
    match rest with
    | [] => simp [slashed]
    | t :: rest =>
      rw [List.map_cons, List.map_cons, List.intercalate_cons_cons, ← List.map_cons, slashed_cons,
        ← ih (by simp)]
      simp

theorem toList_path {u : Url} (h : u.body = .segments parts) :
    u.path.toList = slashed parts := by
  rw [path, h]
  match parts with
  | [] => rfl
  | s :: rest =>
    rw [← intercalate_eq_slashed _ (by simp)]
    simp

/-- Where a slash stands between two texts, so does the end of a segment. -/
theorem segmentsOf_append_slash (special : Bool) (path rest : List Char) :
    segmentsOf special (path ++ '/' :: rest) =
      segmentsOf special path ++ segmentsOf special rest := by
  rw [segmentsOf, List.splitOnP_append_cons _ _ (by simp [endsSegment]), List.map_append]
  rfl

theorem segmentsOf_toList (h : IsWritten s) : segmentsOf true s.toList = [s] := by
  rw [segmentsOf, List.splitOnP_eq_singleton fun c hc => (h c hc).2, List.map_singleton,
    Percent.encode_of_isPlain fun c hc => (h c hc).1, String.ofList_toList]

/-- Segments that are written are read back. -/
theorem segmentsOf_slashed (hs : IsWritten s) (hparts : ∀ t ∈ parts, IsWritten t) :
    segmentsOf true (s.toList ++ slashed parts) = s :: parts := by
  induction parts generalizing s with
  | nil => simpa using segmentsOf_toList hs
  | cons t rest ih =>
    rw [slashed_cons, segmentsOf_append_slash, segmentsOf_toList hs,
      ih (hparts t (.head _)) fun u hu => hparts u (.tail _ hu), List.singleton_append]

/-- Segments behind others are behind them in the text too. -/
theorem exists_of_slashed_eq {dir : List String} (hparts : ∀ t ∈ parts, IsWritten t)
    (hdir : ∀ t ∈ dir, IsWritten t) (h : slashed parts = slashed dir ++ '/' :: rest) :
    ∃ s more, parts = dir ++ s :: more ∧ rest = s.toList ++ slashed more := by
  have hsegments : ∀ {l : List String} {path : List Char}, (∀ t ∈ l, IsWritten t) →
      slashed l = '/' :: path → l = segmentsOf true path := by
    intro l path hl hpath
    match l, hl, hpath with
    | t :: l, hl, hpath =>
      rw [slashed_cons, List.cons.injEq] at hpath
      rw [← hpath.2, segmentsOf_slashed (hl t (.head _)) fun u hu => hl u (.tail _ hu)]
  obtain ⟨s, more, hrest⟩ := List.exists_cons_of_ne_nil (segmentsOf_ne_nil true rest)
  have heq : parts = dir ++ s :: more := by
    match dir, hdir, h with
    | [], _, h => rw [hsegments hparts h, hrest, List.nil_append]
    | d :: dir, hdir, h =>
      rw [slashed_cons, List.cons_append] at h
      rw [hsegments hparts h, segmentsOf_append_slash, ← hrest,
        segmentsOf_slashed (hdir d (.head _)) fun u hu => hdir u (.tail _ hu)]
  refine ⟨s, more, heq, ?_⟩
  rw [heq, slashed_append, List.append_cancel_left_eq, slashed_cons, List.cons.injEq] at h
  exact h.2.symm

/-! ### Paths that stay below -/

/-- True if no segment steps up above the place where the first one starts. `own` are the
segments since then, latest first. -/
def staysBelow (own : List String) : List String → Bool
  | [] => true
  | s :: rest =>
    (!isDoubleDot s || !own.isEmpty) && staysBelow (pushSegment false own s false) rest

/-- Without steps up every path stays below. -/
theorem staysBelow_of_forall (h : ∀ t ∈ segments, isDoubleDot t = false) (own : List String) :
    staysBelow own segments = true := by
  induction segments generalizing own with
  | nil => rfl
  | cons s rest ih =>
    simp [staysBelow, h s (.head _), ih fun t ht => h t (.tail _ ht)]

theorem pushSegment_append (h : isDoubleDot s = true → own ≠ []) :
    pushSegment false (own ++ done) s last = pushSegment false own s last ++ done := by
  have hup : isDoubleDot s = true → stepUp (own ++ done) = stepUp own ++ done := by
    intro hdots
    obtain ⟨t, rest, rfl⟩ := List.exists_cons_of_ne_nil (h hdots)
    simp only [List.cons_append, stepUp]
    split <;> simp
  cases last <;> unfold pushSegment <;> grind

/-- The segments of a path that stays below are added behind the others. -/
theorem pushAll_append_of_staysBelow (h : staysBelow own segments = true) :
    pushAll false (own ++ done) segments = pushAll false own segments ++ done := by
  fun_induction staysBelow own segments with
  | case1 => rfl
  | case2 own s rest ih =>
    simp only [Bool.and_eq_true, Bool.or_eq_true, Bool.not_eq_true'] at h
    have hown : isDoubleDot s = true → own ≠ [] := by
      intro hdots
      simpa [hdots] using h.1
    match rest with
    | [] => exact pushSegment_append hown
    | t :: rest => rw [pushAll, pushAll, pushSegment_append hown, ih h.2]

end SiteSnapshot.Url
