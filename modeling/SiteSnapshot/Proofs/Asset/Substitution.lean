import SiteSnapshot.Layout.UrlPath
import SiteSnapshot.Proofs.Asset.References

/-!
# References to bundles as one substitution

`Roots.relativize` runs one pass of `replaceAll` for each root and opener. `substitute` is a scan
from left to right that looks for an opener directly before a root, writes the reference in its
relative form, and copies every other octet. The references that the passes replace are separated
for every way to the root (`separated_of_subset`), so the passes are one scan for their references
(`foldl_pass_eq_scan`), and this is the substitution whatever their order (`scan_eq_substitute`).

`relativize_eq_substitute` says so, and that no reference is left and that rewriting the text
again changes nothing.
-/

namespace SiteSnapshot

theorem Utf8.encode_append (s t : String) :
    Utf8.encode (s ++ t) = Utf8.encode s ++ Utf8.encode t := by
  simp [Utf8.encode]

namespace Roots

/-! ### The bundles of the site -/

/-- The ways to the root that assets and pages have: none, the place itself, or steps up. -/
def IsWay (toRoot : String) : Prop :=
  toRoot = "" ∨ toRoot = "./" ∨ ∃ n, toRoot = UrlPath.parentHops n

/-- The root of a bundle with which a text starts. -/
def rootAt? (text : Bytes) : Option Bytes :=
  (bundleRoots.map Utf8.encode).find? (·.isPrefixOf text)

/-- One scan from left to right: an opener directly before a root is written with the way to
the root of the site in place of the slash, and every other octet is copied. -/
def substitute (openers : List Char) (toRoot : String) (text : Bytes) : Bytes :=
  match text with
  | [] => []
  | b :: rest =>
    match if b ∈ Utf8.encode (String.ofList openers) then rootAt? rest else none with
    | some root =>
      b :: (Utf8.encode toRoot ++ root.drop 1 ++
        substitute openers toRoot (rest.drop root.length))
    | none => b :: substitute openers toRoot rest
termination_by text.length
decreasing_by
  · simp only [List.length_drop, List.length_cons]; omega
  · simp only [List.length_cons]; omega

/-- The reference that a pass replaces. -/
def Reference.ofPass (p : Char × String) : Reference where
  opener := p.1.toNat.toUInt8
  bare := Utf8.encode (String.ofList (p.2.toList.drop 1))

/-- What a pass looks for is a reference. -/
private theorem encode_pass : ∀ p ∈ passes quotesAndParenthesis,
    Utf8.encode (String.singleton p.1 ++ p.2) = (Reference.ofPass p).absolute ∧
      Utf8.encode (String.singleton p.1) = [(Reference.ofPass p).opener] := by
  decide

/-- A pass replaces its reference. -/
theorem pass_eq_replaceAll {p : Char × String} (hp : p ∈ passes quotesAndParenthesis)
    (toRoot : String) (text : Bytes) :
    pass toRoot text p =
      replaceAll (Reference.ofPass p).absolute
        ((Reference.ofPass p).relative (Utf8.encode toRoot)) text := by
  obtain ⟨habs, hopener⟩ := encode_pass p hp
  rw [pass, habs, Utf8.encode_append, Utf8.encode_append, hopener]
  rfl

/-- A way to the root consists of dots and slashes and does not start with a slash. -/
theorem IsWay.encode {toRoot : String} (h : IsWay toRoot) :
    (∀ b ∈ Utf8.encode toRoot, b = 0x2E ∨ b = slash) ∧
      (Utf8.encode toRoot).head? ≠ some slash := by
  have hhops : ∀ n, Utf8.encode (UrlPath.parentHops n) =
      (List.replicate n ([0x2E, 0x2E, slash] : Bytes)).flatten := by
    intro n
    induction n with
    | zero => decide
    | succ n ih =>
      have hsucc : UrlPath.parentHops (n + 1) = "../" ++ UrlPath.parentHops n := by
        rw [UrlPath.parentHops, List.replicate_succ, String.join_cons, UrlPath.parentHops]
      rw [hsucc, Utf8.encode_append, ih, List.replicate_succ, List.flatten_cons]
      rfl
  have hhere : Utf8.encode "./" = [0x2E, slash] := by decide
  rcases h with rfl | rfl | ⟨n, rfl⟩
  · simp [Utf8.encode]
  · simp [hhere, slash]
  · rw [hhops]
    constructor
    · intro b hb
      simp only [List.mem_flatten, List.mem_replicate] at hb
      obtain ⟨l, ⟨-, rfl⟩, hb⟩ := hb
      simpa using hb
    · cases n with
      | zero => simp
      | succ n => simp [List.replicate_succ, slash]

/-- References to the bundles of the site are separated for every way to the root. -/
theorem separated_of_subset {ps : List (Char × String)} (hps : ps ⊆ passes quotesAndParenthesis)
    {toRoot : String} (hway : IsWay toRoot) :
    Separated (ps.map Reference.ofPass) (Utf8.encode toRoot) := by
  obtain ⟨hdots, hhead⟩ := hway.encode
  have hopener : ∀ p ∈ passes quotesAndParenthesis, (Reference.ofPass p).opener ≠ 0x2E ∧
      (Reference.ofPass p).opener ≠ slash ∧ (Reference.ofPass p).bare ≠ [] ∧
      (Reference.ofPass p).bare.head? ≠ some slash ∧
      ∀ q ∈ passes quotesAndParenthesis,
        (Reference.ofPass p).opener ∉ (Reference.ofPass q).bare := by decide
  refine ⟨?_, ?_, ?_, ?_⟩
  · exact List.forall_mem_map.mpr fun p hp => (hopener p (hps hp)).2.1
  · refine List.forall_mem_map.mpr fun p hp hmem => ?_
    rcases hdots _ hmem with h | h
    · exact (hopener p (hps hp)).1 h
    · exact (hopener p (hps hp)).2.1 h
  · exact List.forall_mem_map.mpr fun p hp => List.forall_mem_map.mpr fun q hq =>
      (hopener p (hps hp)).2.2.2.2 q (hps hq)
  · refine List.forall_mem_map.mpr fun p hp => ?_
    obtain ⟨-, -, hne, hbare, -⟩ := hopener p (hps hp)
    cases hw : Utf8.encode toRoot with
    | nil =>
      obtain ⟨b, rest, hb⟩ := List.exists_cons_of_ne_nil hne
      rw [hb] at hbare ⊢
      exact ⟨b, rest, rfl, by simpa using hbare⟩
    | cons b rest =>
      rw [hw] at hhead
      exact ⟨b, rest ++ (Reference.ofPass p).bare, rfl, by simpa using hhead⟩

/-- A root starts with a slash. -/
private theorem eq_slash_cons :
    ∀ root ∈ bundleRoots.map Utf8.encode, root = slash :: root.tail := by decide

/-- At most one root starts a text. -/
theorem rootAt?_eq_some_iff {text root : Bytes} :
    rootAt? text = some root ↔ root ∈ bundleRoots.map Utf8.encode ∧ root <+: text := by
  have hfound : ∀ {q : Bytes}, rootAt? text = some q →
      q ∈ bundleRoots.map Utf8.encode ∧ q <+: text := by
    intro q h
    rw [rootAt?] at h
    exact ⟨List.mem_of_find?_eq_some h, by simpa using List.find?_some h⟩
  have happart : ∀ r ∈ bundleRoots.map Utf8.encode, ∀ q ∈ bundleRoots.map Utf8.encode,
      r <+: q → r = q := by decide
  refine ⟨hfound, ?_⟩
  rintro ⟨hroot, hpre⟩
  cases h : rootAt? text with
  | none => simpa [hpre] using List.find?_eq_none.mp h root hroot
  | some q =>
    obtain ⟨hq, hqpre⟩ := hfound h
    rcases Nat.le_total root.length q.length with hle | hle
    · rw [happart root hroot q hq (List.prefix_of_prefix_length_le hpre hqpre hle)]
    · rw [happart q hq root hroot (List.prefix_of_prefix_length_le hqpre hpre hle)]

/-- The references of all passes are the openers with the roots. -/
private theorem mem_ofPass_iff {openers : List Char}
    (ho : openers = quotes ∨ openers = quotesAndParenthesis) {b : UInt8} {bare : Bytes} :
    ⟨b, bare⟩ ∈ (passes openers).map Reference.ofPass ↔
      b ∈ Utf8.encode (String.ofList openers) ∧
        slash :: bare ∈ bundleRoots.map Utf8.encode := by
  have hopeners : Utf8.encode (String.ofList openers) = openers.map (·.toNat.toUInt8) := by
    rcases ho with rfl | rfl <;> decide
  have hroots : bundleRoots.map Utf8.encode =
      bundleRoots.map fun root => slash :: Utf8.encode (String.ofList (root.toList.drop 1)) := by
    decide
  rw [hopeners, hroots]
  simp only [passes, List.mem_map, List.mem_flatMap, Reference.ofPass, Reference.mk.injEq,
    List.cons.injEq, true_and]
  constructor
  · rintro ⟨p, ⟨root, hroot, o, ho, rfl⟩, rfl, rfl⟩
    exact ⟨⟨o, ho, rfl⟩, root, hroot, rfl⟩
  · rintro ⟨⟨o, ho, rfl⟩, root, hroot, rfl⟩
    exact ⟨(o, root), ⟨root, hroot, o, ho, rfl⟩, rfl, rfl⟩

/-- A scan for the references of all passes, in any order, is the substitution. -/
theorem scan_eq_substitute {openers : List Char}
    (ho : openers = quotes ∨ openers = quotesAndParenthesis) {refs : List Reference}
    (hrefs : ∀ r, r ∈ refs ↔ r ∈ (passes openers).map Reference.ofPass) (toRoot : String)
    (text : Bytes) : scan refs (Utf8.encode toRoot) text = substitute openers toRoot text := by
  induction hn : text.length using Nat.strong_induction_on generalizing text with
  | _ n ih =>
    cases text with
    | nil => rw [scan_nil, substitute]
    | cons b rest =>
      have hlen : rest.length < n := by simp [← hn]
      rcases scan_cases refs (Utf8.encode toRoot) b rest with
        ⟨r, hr, text, htext, -, hscan⟩ | ⟨hstart, hscan⟩
      · obtain ⟨hopener, hroot⟩ := (mem_ofPass_iff ho).mp ((hrefs r).mp hr)
        rw [Reference.absolute, List.cons_append] at htext
        obtain ⟨rfl, rfl⟩ := List.cons_eq_cons.mp htext
        have hat : rootAt? (slash :: r.bare ++ text) = some (slash :: r.bare) :=
          rootAt?_eq_some_iff.mpr ⟨hroot, List.prefix_append _ _⟩
        have htext : text.length < n := by
          refine lt_of_le_of_lt ?_ hlen
          simp only [List.length_append, List.length_cons]
          omega
        rw [hscan, substitute, if_pos hopener, hat, ih _ htext text rfl]
        simp [Reference.relative]
      · have hnone : (if b ∈ Utf8.encode (String.ofList openers) then rootAt? rest else none) =
            none := by
          split_ifs with hb
          · cases hat : rootAt? rest with
            | none => rfl
            | some root =>
              obtain ⟨hroot, hpre⟩ := rootAt?_eq_some_iff.mp hat
              have heq := eq_slash_cons root hroot
              rw [heq] at hroot hpre
              have hr := (hrefs ⟨b, root.tail⟩).mpr ((mem_ofPass_iff ho).mpr ⟨hb, hroot⟩)
              exact absurd (List.cons_prefix_cons.mpr ⟨rfl, hpre⟩)
                (starting?_eq_none_iff.mp hstart _ hr)
          · rfl
        rw [hscan, substitute, hnone, ih _ hlen rest rfl]

/-- The passes of a list, one after the other, are a scan for its references. -/
theorem foldl_pass_eq_scan {ps : List (Char × String)} (hps : ps ⊆ passes quotesAndParenthesis)
    {toRoot : String} (hway : IsWay toRoot) (text : Bytes) :
    ps.foldl (pass toRoot) text = scan (ps.map Reference.ofPass) (Utf8.encode toRoot) text := by
  rw [← foldl_replaceAll_eq_scan (separated_of_subset hps hway), List.foldl_map]
  refine List.foldl_ext _ _ _ fun text p hp => ?_
  exact pass_eq_replaceAll (hps hp) toRoot text

/-- **No reference is left** in a relativized text. -/
theorem not_infix_relativize {openers : List Char}
    (ho : openers = quotes ∨ openers = quotesAndParenthesis) {toRoot : String}
    (hway : IsWay toRoot) (text : Bytes) {opener : Char} (hopener : opener ∈ openers)
    {root : String} (hroot : root ∈ bundleRoots) :
    ¬Utf8.encode (String.singleton opener ++ root) <:+: relativize openers toRoot text := by
  have hsub : passes openers ⊆ passes quotesAndParenthesis := by
    rcases ho with rfl | rfl
    · decide
    · exact List.Subset.refl _
  have hp : (opener, root) ∈ passes openers :=
    List.mem_flatMap.mpr ⟨root, hroot, List.mem_map.mpr ⟨opener, hopener, rfl⟩⟩
  rw [(encode_pass _ (hsub hp)).1, relativize, foldl_pass_eq_scan hsub hway]
  exact (separated_of_subset hsub hway).not_absolute_infix_scan (List.mem_map_of_mem hp) text

/-- **Relativizing is one simultaneous substitution.** The passes over roots and openers, in
every order, are the single scan; it leaves no opener directly before a root, and relativizing
its result again, from whatever place, changes nothing. -/
theorem relativize_eq_substitute {openers : List Char}
    (ho : openers = quotes ∨ openers = quotesAndParenthesis) {toRoot : String}
    (hway : IsWay toRoot) (text : Bytes) :
    relativize openers toRoot text = substitute openers toRoot text ∧
      (∀ ps : List (Char × String), ps.Perm (passes openers) →
        ps.foldl (pass toRoot) text = relativize openers toRoot text) ∧
      (∀ opener ∈ openers, ∀ root ∈ bundleRoots,
        ¬Utf8.encode (String.singleton opener ++ root) <:+: relativize openers toRoot text) ∧
      ∀ toRoot', IsWay toRoot' →
        relativize openers toRoot' (relativize openers toRoot text) =
          relativize openers toRoot text := by
  have hsub : passes openers ⊆ passes quotesAndParenthesis := by
    rcases ho with rfl | rfl
    · decide
    · exact List.Subset.refl _
  have horder : ∀ ps : List (Char × String), ps.Perm (passes openers) →
      ps.foldl (pass toRoot) text = substitute openers toRoot text := by
    intro ps hperm
    rw [foldl_pass_eq_scan (fun p hp => hsub (hperm.subset hp)) hway]
    exact scan_eq_substitute ho (fun r => (hperm.map _).mem_iff) toRoot text
  have hscan : relativize openers toRoot text =
      scan ((passes openers).map Reference.ofPass) (Utf8.encode toRoot) text :=
    foldl_pass_eq_scan hsub hway text
  have hfree : ∀ r ∈ (passes openers).map Reference.ofPass,
      ¬r.absolute <:+: relativize openers toRoot text := by
    intro r hr
    rw [hscan]
    exact (separated_of_subset hsub hway).not_absolute_infix_scan hr text
  refine ⟨horder _ (List.Perm.refl _), fun ps hperm => ?_, fun opener hopener root hroot => ?_,
    fun toRoot' hway' => ?_⟩
  · exact (horder ps hperm).trans (horder _ (List.Perm.refl _)).symm
  · have hp : (opener, root) ∈ passes openers :=
      List.mem_flatMap.mpr ⟨root, hroot, List.mem_map.mpr ⟨opener, hopener, rfl⟩⟩
    rw [(encode_pass _ (hsub hp)).1]
    exact hfree _ (List.mem_map_of_mem hp)
  · rw [relativize, foldl_pass_eq_scan hsub hway', scan_eq_self hfree]

/-- An opener in front of an opener, and a root cut by a quote, from a place one step below
the root. -/
theorem relativize_cut_references :
    IsWay "../" ∧
      relativize quotes "../" (Utf8.encode "'\"/static/\"/sta'tic/'/third_party/'/static") =
        Utf8.encode "'\"../static/\"/sta'tic/'../third_party/'/static" := by
  have hway : IsWay "../" := Or.inr (Or.inr ⟨1, by decide⟩)
  refine ⟨hway, ?_⟩
  rw [(relativize_eq_substitute (Or.inl rfl) hway _).1]
  decide +kernel

end Roots

end SiteSnapshot
