import Mathlib.Data.List.Basic
import SiteSnapshot.Page.Relocate

/-!
# Relocation in document order

`walk` is a loop over an explicit stack that rewrites a page while it walks over it. Here is
what it leaves behind, said by structural recursion and without a stack or a flag:

* `relinked` rewrites every element for itself: the values of its URL attributes, and the text
  directly inside a script without a source. It looks at no other node.
* `withPolicy?` puts the policy in front of the children of the first head in document order,
  and answers nothing for a page without a head.

`relocate_eq_relinked_withPolicy` says that a relocated page is the relinked page with the
policy. Its proof carries one invariant through the loop: what the finished nodes, the waiting
nodes and the frames will have become (`unwind`) is the same before and after every step. The
frames hold the nodes waiting at the outer levels, and these see the flag that the inner level
leaves behind, so `unwind` hands the flag outwards.

The order in which a page lists its tags (`tags`) gives a second view of the policy that does
not mention the tree: it is the tag behind the first head, and it is there once.
-/

namespace SiteSnapshot.Page

open Html

/-! ### Rewriting element by element -/

/-- An attribute with its value relative to the root, if the attribute holds a URL and its
value is an absolute path of the site. -/
def relinkedAttribute (toRoot : String) (a : Attribute) : Attribute :=
  if a.name ∈ ["href", "src", "action", "poster", "data"] then
    match Link.relative? a.value toRoot with
    | some value => { a with value }
    | none => a
  else a

/-- A tag with relinked attributes. -/
def relinkedTag (toRoot : String) (t : Tag) : Tag :=
  { t with attributes := t.attributes.map (relinkedAttribute toRoot) }

/-- A script that carries its own text. -/
def CarriesScript (t : Tag) : Prop :=
  t.name = "script" ∧ ∀ a ∈ t.attributes, a.name ≠ "src"

instance (t : Tag) : Decidable (CarriesScript t) :=
  inferInstanceAs (Decidable (_ ∧ _))

mutual

/-- A node with every element rewritten for itself. The flag says whether the node is a child
of a script that carries its own text; it concerns text only. -/
def relinked (toRoot : String) (inScript : Bool) : Node → Node
  | .document children => .document (relinkedAll toRoot false children)
  | .doctype name => .doctype name
  | .comment t => .comment t
  | .text t => .text (if inScript then Roots.relativizeScript t toRoot else t)
  | .element tag content children =>
    .element (relinkedTag toRoot tag) content
      (relinkedAll toRoot (decide (CarriesScript tag)) children)

/-- Nodes with every element rewritten for itself. -/
def relinkedAll (toRoot : String) (inScript : Bool) : List Node → List Node
  | [] => []
  | node :: rest => relinked toRoot inScript node :: relinkedAll toRoot inScript rest

end

/-! ### The policy in the first head -/

mutual

/-- A node with the policy as the first child of its first head in document order; none if it
has no head. -/
def withPolicy? : Node → Option Node
  | .document children => (withPolicyAll? children).map .document
  | .doctype _ | .comment _ | .text _ => none
  | .element tag content children =>
    if tag.name = "head" then some (.element tag content (Policy.element :: children))
    else (withPolicyAll? children).map (.element tag content)

/-- Nodes with the policy as the first child of the first head among and below them. -/
def withPolicyAll? : List Node → Option (List Node)
  | [] => none
  | node :: rest =>
    match withPolicy? node with
    | some node => some (node :: rest)
    | none => (withPolicyAll? rest).map (node :: ·)

end

/-! ### The tags of a page -/

mutual

/-- The tags of the elements of a node in document order. -/
def tags : Node → List Tag
  | .document children => tagsAll children
  | .doctype _ | .comment _ | .text _ => []
  | .element tag _ children => tag :: tagsAll children

/-- The tags of the elements of nodes in document order. -/
def tagsAll : List Node → List Tag
  | [] => []
  | node :: rest => tags node ++ tagsAll rest

end

/-- The tag of the policy. -/
def policyTag : Tag where
  name := "meta"
  attributes :=
    [{ name := "http-equiv", value := "Content-Security-Policy" },
     { name := "content", value := Policy.content }]

/-- A list of tags with the tag of the policy behind the first head. -/
def behindFirstHead : List Tag → List Tag
  | [] => []
  | t :: rest => if t.name = "head" then t :: policyTag :: rest else t :: behindFirstHead rest

/-- Without a head among them, tags stay as they are. -/
theorem behindFirstHead_append_of_forall {l m : List Tag} (h : ∀ t ∈ l, t.name ≠ "head") :
    behindFirstHead (l ++ m) = l ++ behindFirstHead m := by
  induction l with
  | nil => rfl
  | cons t rest ih =>
    obtain ⟨ht, hrest⟩ := List.forall_mem_cons.mp h
    rw [List.cons_append, behindFirstHead, if_neg ht, ih hrest, List.cons_append]

/-- Behind the first head nothing changes. -/
theorem behindFirstHead_append_of_exists {l m : List Tag} (h : ∃ t ∈ l, t.name = "head") :
    behindFirstHead (l ++ m) = behindFirstHead l ++ m := by
  induction l with
  | nil => simp at h
  | cons t rest ih =>
    by_cases ht : t.name = "head"
    · simp [behindFirstHead, ht]
    · rw [List.cons_append, behindFirstHead, behindFirstHead, if_neg ht, if_neg ht,
        ih (by simpa [ht] using h), List.cons_append]

/-- A list without a head gets no policy. -/
theorem behindFirstHead_of_forall {l : List Tag} (h : ∀ t ∈ l, t.name ≠ "head") :
    behindFirstHead l = l := by
  have h' := behindFirstHead_append_of_forall (m := []) h
  simpa [behindFirstHead] using h'

mutual

/-- Where the policy goes into a node, it goes behind the first head. -/
theorem tags_of_withPolicy? : {n m : Node} → withPolicy? n = some m →
    (∃ t ∈ tags n, t.name = "head") ∧ tags m = behindFirstHead (tags n)
  | .document children, m, h => by
    obtain ⟨c, hc, rfl⟩ := Option.map_eq_some_iff.mp h
    exact tagsAll_of_withPolicyAll? hc
  | .element tag content children, m, h => by
    by_cases ht : tag.name = "head"
    · rw [withPolicy?, if_pos ht] at h
      obtain rfl := Option.some.inj h
      exact ⟨⟨tag, by simp [tags], ht⟩,
        by simp [tags, tagsAll, behindFirstHead, ht, Policy.element, policyTag]⟩
    · rw [withPolicy?, if_neg ht] at h
      obtain ⟨c, hc, rfl⟩ := Option.map_eq_some_iff.mp h
      obtain ⟨⟨t, htm, hth⟩, heq⟩ := tagsAll_of_withPolicyAll? hc
      exact ⟨⟨t, by simp [tags, htm], hth⟩,
        by rw [tags, tags, behindFirstHead, if_neg ht, heq]⟩
  | .doctype _, m, h => by simp [withPolicy?] at h
  | .comment _, m, h => by simp [withPolicy?] at h
  | .text _, m, h => by simp [withPolicy?] at h

/-- Where the policy goes into a list of nodes, it goes behind the first head. -/
theorem tagsAll_of_withPolicyAll? : {n m : List Node} → withPolicyAll? n = some m →
    (∃ t ∈ tagsAll n, t.name = "head") ∧ tagsAll m = behindFirstHead (tagsAll n)
  | [], m, h => by simp [withPolicyAll?] at h
  | node :: rest, m, h => by
    rw [withPolicyAll?] at h
    split at h
    · next node' hn =>
      obtain rfl := Option.some.inj h
      obtain ⟨hex, heq⟩ := tags_of_withPolicy? hn
      obtain ⟨t, htm, hth⟩ := hex
      exact ⟨⟨t, by simp [tagsAll, htm], hth⟩,
        by rw [tagsAll, tagsAll, heq, behindFirstHead_append_of_exists ⟨t, htm, hth⟩]⟩
    · next hn =>
      obtain ⟨c, hc, rfl⟩ := Option.map_eq_some_iff.mp h
      obtain ⟨⟨t, htm, hth⟩, heq⟩ := tagsAll_of_withPolicyAll? hc
      exact ⟨⟨t, by simp [tagsAll, htm], hth⟩,
        by rw [tagsAll, tagsAll, heq,
          behindFirstHead_append_of_forall (forall_tags_of_withPolicy? hn)]⟩

/-- A node that gets no policy has no head. -/
theorem forall_tags_of_withPolicy? : {n : Node} → withPolicy? n = none →
    ∀ t ∈ tags n, t.name ≠ "head"
  | .document children, h => forall_tagsAll_of_withPolicyAll? (Option.map_eq_none_iff.mp h)
  | .element tag content children, h => by
    by_cases ht : tag.name = "head"
    · simp [withPolicy?, ht] at h
    · rw [withPolicy?, if_neg ht, Option.map_eq_none_iff] at h
      rw [tags, List.forall_mem_cons]
      exact ⟨ht, forall_tagsAll_of_withPolicyAll? h⟩
  | .doctype _, _ => by simp [tags]
  | .comment _, _ => by simp [tags]
  | .text _, _ => by simp [tags]

/-- Nodes that get no policy have no head. -/
theorem forall_tagsAll_of_withPolicyAll? : {n : List Node} → withPolicyAll? n = none →
    ∀ t ∈ tagsAll n, t.name ≠ "head"
  | [], _ => by simp [tagsAll]
  | node :: rest, h => by
    rw [withPolicyAll?] at h
    split at h
    · simp at h
    · next hn =>
      rw [tagsAll, List.forall_mem_append]
      exact ⟨forall_tags_of_withPolicy? hn,
        forall_tagsAll_of_withPolicyAll? (Option.map_eq_none_iff.mp h)⟩

end

mutual

/-- Relinking a node relinks its tags and keeps their order. -/
theorem tags_relinked (toRoot : String) (inScript : Bool) :
    (n : Node) → tags (relinked toRoot inScript n) = (tags n).map (relinkedTag toRoot)
  | .document children => by rw [relinked, tags, tags, tagsAll_relinkedAll]
  | .element tag content children => by
    rw [relinked, tags, tags, tagsAll_relinkedAll, List.map_cons]
  | .doctype _ => rfl
  | .comment _ => rfl
  | .text _ => rfl

/-- Relinking nodes relinks their tags and keeps their order. -/
theorem tagsAll_relinkedAll (toRoot : String) (inScript : Bool) :
    (n : List Node) →
      tagsAll (relinkedAll toRoot inScript n) = (tagsAll n).map (relinkedTag toRoot)
  | [] => rfl
  | node :: rest => by
    rw [relinkedAll, tagsAll, tagsAll, tags_relinked, tagsAll_relinkedAll, List.map_append]

end

/-- The tags of a page with the policy, if it has a head. -/
theorem tags_withPolicy?_getD (n : Node) :
    tags ((withPolicy? n).getD n) = behindFirstHead (tags n) := by
  cases hn : withPolicy? n with
  | none => exact (behindFirstHead_of_forall (forall_tags_of_withPolicy? hn)).symm
  | some m => exact (tags_of_withPolicy? hn).2

/-! ### What a visit does -/

/-- The loop relinks a tag like the recursion. -/
private theorem relocateTag_eq (toRoot : String) (t : Tag) :
    relocateTag toRoot t = relinkedTag toRoot t := by
  have ha : relocateAttribute toRoot = relinkedAttribute toRoot := by
    funext a
    unfold relocateAttribute relinkedAttribute
    have hmem : Link.isUrlAttribute a.name = true ↔
        a.name ∈ ["href", "src", "action", "poster", "data"] := List.contains_iff_mem
    split_ifs with h1 h2 h2
    · cases Link.relative? a.value toRoot <;> rfl
    · exact absurd (hmem.mp h1) h2
    · exact absurd (hmem.mpr h2) h1
    · rfl
  rw [relocateTag, relinkedTag, ha]

/-- The loop and the recursion agree on scripts. -/
private theorem isInlineScript_eq (t : Tag) : isInlineScript t = decide (CarriesScript t) := by
  rw [Bool.eq_iff_iff, decide_eq_true_iff]
  simp [isInlineScript, CarriesScript, Tag.hasAttribute]

/-- The text of a script may be rewritten before the nodes in it. -/
private theorem relinkedAll_map_relocateScriptText (toRoot : String) (nodes : List Node) :
    relinkedAll toRoot false (nodes.map (relocateScriptText toRoot)) =
      relinkedAll toRoot true nodes := by
  induction nodes with
  | nil => rfl
  | cons node rest ih =>
    rw [List.map_cons, relinkedAll, relinkedAll, ih]
    cases node <;> simp [relocateScriptText, relinked]

/-- The policy has no link and no text, so that a walk over it leaves it alone. -/
private theorem relinked_policy (toRoot : String) (inScript : Bool) :
    relinked toRoot inScript Policy.element = Policy.element := by
  have h : relinkedTag toRoot policyTag = policyTag := by
    simp [relinkedTag, policyTag, relinkedAttribute]
  exact congrArg (fun t => Node.element t none []) h

/-! ### What the loop leaves behind -/

/-- What waiting nodes become and whether a head has been seen behind them: every element is
rewritten for itself, and the first head gets the policy unless one has been seen before. -/
private def settle (toRoot : String) (seenHead : Bool) (nodes : List Node) : List Node × Bool :=
  if seenHead then (relinkedAll toRoot false nodes, true)
  else
    match withPolicyAll? (relinkedAll toRoot false nodes) with
    | some placed => (placed, true)
    | none => (relinkedAll toRoot false nodes, false)

/-- What the frames of the walk become around the nodes of the innermost level. -/
private def unwind (toRoot : String) : List Frame → List Node × Bool → List Node × Bool
  | [], level => level
  | f :: frames, level =>
    let behind := settle toRoot level.2 f.waiting
    unwind toRoot frames (f.finished.reverse ++ f.holder.close level.1 :: behind.1, behind.2)

private theorem settle_nil (toRoot : String) (seenHead : Bool) :
    settle toRoot seenHead [] = ([], seenHead) := by
  cases seenHead <;> rfl

/-- A node without children is settled for itself. -/
private theorem settle_cons_leaf {toRoot : String} {node : Node}
    (hrel : relinked toRoot false node = node) (hpol : withPolicy? node = none)
    (seenHead : Bool) (rest : List Node) :
    settle toRoot seenHead (node :: rest) =
      (node :: (settle toRoot seenHead rest).1, (settle toRoot seenHead rest).2) := by
  cases seenHead with
  | true => simp [settle, relinkedAll, hrel]
  | false =>
    simp only [settle, Bool.false_eq_true, if_false, relinkedAll, hrel, withPolicyAll?, hpol]
    cases withPolicyAll? (relinkedAll toRoot false rest) <;> rfl

/-- The children of a document are settled before the nodes behind it. -/
private theorem settle_cons_document (toRoot : String) (seenHead : Bool)
    (children rest : List Node) :
    settle toRoot seenHead (.document children :: rest) =
      let inner := settle toRoot seenHead children
      let behind := settle toRoot inner.2 rest
      (.document inner.1 :: behind.1, behind.2) := by
  cases seenHead with
  | true => simp [settle, relinkedAll, relinked]
  | false =>
    simp only [settle, Bool.false_eq_true, if_false, relinkedAll, relinked, withPolicyAll?,
      withPolicy?]
    cases withPolicyAll? (relinkedAll toRoot false children) with
    | some placed => simp
    | none => cases withPolicyAll? (relinkedAll toRoot false rest) <;> simp

/-- A visit to the first head gives it the policy. -/
private theorem visit_of_head {toRoot : String} {tag : Tag} (h : tag.name = "head")
    (children : List Node) :
    visit toRoot false tag children =
      (relinkedTag toRoot tag, Policy.element :: children, true) := by
  rw [visit, if_pos ⟨h, rfl⟩, relocateTag_eq]

/-- A visit to any other element rewrites it and at most the text in it. -/
private theorem visit_of_not_head {toRoot : String} {seenHead : Bool} {tag : Tag}
    (h : ¬(tag.name = "head" ∧ seenHead = false)) (children : List Node) :
    visit toRoot seenHead tag children = (relinkedTag toRoot tag,
      if CarriesScript tag then children.map (relocateScriptText toRoot) else children,
      seenHead) := by
  rw [visit, if_neg h, relocateTag_eq, isInlineScript_eq]
  by_cases hs : CarriesScript tag <;> simp [hs]

/-- A head is no script. -/
private theorem not_carriesScript_of_head {tag : Tag} (h : tag.name = "head") :
    ¬CarriesScript tag := by
  rintro ⟨hs, -⟩
  exact absurd (h.symm.trans hs) (by decide)

/-- Rewriting the text of a script first and the children of the element then is rewriting the
children with regard to the element. -/
private theorem relinkedAll_children (toRoot : String) (tag : Tag) (children : List Node) :
    relinkedAll toRoot false
        (if CarriesScript tag then children.map (relocateScriptText toRoot) else children) =
      relinkedAll toRoot (decide (CarriesScript tag)) children := by
  by_cases h : CarriesScript tag
  · rw [if_pos h, relinkedAll_map_relocateScriptText, decide_eq_true h]
  · rw [if_neg h, decide_eq_false h]

/-- An element is settled as its visit says, and its children before the nodes behind it. -/
private theorem settle_cons_element (toRoot : String) (seenHead : Bool) (tag : Tag)
    (content : Option (List Node)) (children rest : List Node) :
    settle toRoot seenHead (.element tag content children :: rest) =
      let visited := visit toRoot seenHead tag children
      let inner := settle toRoot visited.2.2 visited.2.1
      let behind := settle toRoot inner.2 rest
      (.element visited.1 content inner.1 :: behind.1, behind.2) := by
  have hname : (relinkedTag toRoot tag).name = tag.name := rfl
  by_cases hhead : tag.name = "head" ∧ seenHead = false
  -- the policy that the visit has put in front is walked over like the other children
  · obtain ⟨h, rfl⟩ := hhead
    rw [visit_of_head h]
    simp [settle, relinkedAll, relinked, withPolicyAll?, withPolicy?, hname, h,
      relinked_policy, not_carriesScript_of_head h]
  · rw [visit_of_not_head hhead]
    cases seenHead with
    | true => simp [settle, relinkedAll, relinked, relinkedAll_children]
    | false =>
      have hne : tag.name ≠ "head" := fun h => hhead ⟨h, rfl⟩
      simp only [settle, Bool.false_eq_true, if_false, relinkedAll, relinked, withPolicyAll?,
        withPolicy?, hname, if_neg hne, relinkedAll_children]
      cases withPolicyAll? (relinkedAll toRoot (decide (CarriesScript tag)) children) with
      | some placed => simp
      | none => cases withPolicyAll? (relinkedAll toRoot false rest) <;> simp

/-- **The invariant of the loop.** What the finished nodes, the waiting nodes and the frames
become is the same at every step, so that the loop leaves what it promises at its start. -/
private theorem walk_eq_unwind (toRoot : String) (frames : List Frame) (seenHead : Bool)
    (finished waiting : List Node) :
    walk toRoot frames seenHead finished waiting =
      unwind toRoot frames
        (finished.reverse ++ (settle toRoot seenHead waiting).1,
          (settle toRoot seenHead waiting).2) := by
  fun_induction walk toRoot frames seenHead finished waiting with
  | case1 seenHead finished => simp [settle_nil, unwind]
  -- an inner level is done: its frame is taken off, and the flag goes to the nodes behind it
  | case2 seenHead finished f frames ih =>
    rw [List.unattach_reverse, List.unattach_attach] at ih
    rw [ih, settle_nil, unwind]
    simp
  -- an element or a document is entered: what waits behind it becomes a frame
  | case3 frames seenHead finished tag content children rest visited ih =>
    rw [ih, settle_cons_element, unwind]
    simp [Holder.close, visited]
  | case4 frames seenHead finished children rest ih =>
    rw [ih, settle_cons_document, unwind]
    simp [Holder.close]
  -- nodes without children are finished at once
  | case5 frames seenHead finished name rest ih => rw [ih, settle_cons_leaf rfl rfl]; simp
  | case6 frames seenHead finished t rest ih => rw [ih, settle_cons_leaf rfl rfl]; simp
  | case7 frames seenHead finished t rest ih => rw [ih, settle_cons_leaf rfl rfl]; simp

/-- A page is settled into the relinked page with the policy, and a head has been seen if the
page has one. -/
private theorem settle_page (toRoot : String) (page : Node) :
    settle toRoot false [page] =
      ([(withPolicy? (relinked toRoot false page)).getD (relinked toRoot false page)],
        (tags page).any (·.name == "head")) := by
  have hname : ∀ t : Tag, (relinkedTag toRoot t).name = t.name := fun _ => rfl
  simp only [settle, Bool.false_eq_true, if_false, relinkedAll, withPolicyAll?]
  cases hp : withPolicy? (relinked toRoot false page) with
  | none =>
    have hno := forall_tags_of_withPolicy? hp
    rw [tags_relinked] at hno
    simpa [hname] using hno
  | some placed =>
    obtain ⟨hex, -⟩ := tags_of_withPolicy? hp
    rw [tags_relinked] at hex
    simpa [hname] using hex

/-- A walk over a page before a head has been seen. -/
theorem walk_page (toRoot : String) (page : Node) :
    walk toRoot [] false [] [page] =
      ([(withPolicy? (relinked toRoot false page)).getD (relinked toRoot false page)],
        (tags page).any (·.name == "head")) := by
  rw [walk_eq_unwind, settle_page, unwind]
  simp

/-- A walk over a page after a head has been seen. -/
theorem walk_page_of_seenHead (toRoot : String) (page : Node) :
    walk toRoot [] true [] [page] = ([relinked toRoot false page], true) := by
  rw [walk_eq_unwind, settle, if_pos rfl, unwind]
  rfl

/-- **A relocated page in document order.** The loop ends with one node, the page in which every
element is rewritten for itself and the first head has the policy as its first child, and it
ends knowing whether there is a head; the tags of the page are the rewritten ones in their order,
with the tag of the policy behind the first head and nowhere else. -/
theorem relocate_eq_relinked_withPolicy (toRoot : String) (page : Node) :
    walk toRoot [] false [] [page] =
        ([(withPolicy? (relinked toRoot false page)).getD (relinked toRoot false page)],
          (tags page).any (·.name == "head")) ∧
      relocate toRoot page =
        (withPolicy? (relinked toRoot false page)).getD (relinked toRoot false page) ∧
      tags (relocate toRoot page) = behindFirstHead ((tags page).map (relinkedTag toRoot)) := by
  have hrel : relocate toRoot page =
      (withPolicy? (relinked toRoot false page)).getD (relinked toRoot false page) := by
    rw [relocate, relocateNodes, walk_page]
    rfl
  refine ⟨walk_page toRoot page, hrel, ?_⟩
  rw [hrel, tags_withPolicy?_getD, tags_relinked]

end SiteSnapshot.Page
