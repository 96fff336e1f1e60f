import SiteSnapshot.Proofs.Asset.Characters
import SiteSnapshot.Proofs.Html.TemplateContents
import SiteSnapshot.Proofs.Page.DocumentOrder

/-!
# A relocated page is settled

A page is **settled** when none of its elements leaves anything to relocate: no URL attribute is an
absolute path of the site, and no text directly inside an inline script quotes the root of a bundle.
A walk leaves a settled page behind (`settled_relinked`, `settled_withPolicy?`), because what it
writes starts with a dot, and a settled page stays as it is in another walk, from whatever place
(`relinked_eq_self`). `walk_settles` puts these together.

The elements of a page are those of the contents of its templates too (`elements`), and a walk does
not enter contents. So the page has to be one without contents, which `Arena.inlineContents` leaves
(`content_of_mem_elements_inlineContents`).
-/

namespace SiteSnapshot

/-! ### Ways and links -/

/-- The way from a page to the root of the site starts with a dot. -/
theorem UrlPath.exists_wayToRoot_eq (d : ℕ) : ∃ rest, (wayToRoot d).toList = '.' :: rest := by
  cases d with
  | zero => exact ⟨['/'], rfl⟩
  | succ d =>
    refine ⟨'.' :: '/' :: (parentHops d).toList, ?_⟩
    rw [wayToRoot, if_neg (Nat.succ_ne_zero d), parentHops, List.replicate_succ, String.join_cons,
      String.toList_append]
    rfl

theorem Roots.isWay_wayToRoot (d : ℕ) : IsWay (UrlPath.wayToRoot d) := by
  rw [UrlPath.wayToRoot]
  split_ifs
  · exact Or.inr (Or.inl rfl)
  · exact Or.inr (Or.inr ⟨d, rfl⟩)

/-- A relative link is no absolute path. -/
theorem Link.isAbsolutePath_of_relative? {value link : String} {d : ℕ}
    (h : Link.relative? value (UrlPath.wayToRoot d) = some link) :
    Link.isAbsolutePath link = false := by
  obtain ⟨rest, hrest⟩ := UrlPath.exists_wayToRoot_eq d
  rw [Link.relative?, Option.ite_none_right_eq_some] at h
  obtain ⟨-, h⟩ := h
  obtain rfl := Option.some.inj h
  rw [Link.isAbsolutePath, String.toList_append, hrest]
  rfl

namespace Page

open Html

/-! ### The elements of a page -/

/-- An element with what lies below it. -/
structure Element where
  tag : Tag
  content : Option (List Node)
  children : List Node

mutual

/-- The elements of a node in document order, those of contents behind those of children. -/
def elements : Node → List Element
  | .document children => elementsAll children
  | .doctype _ | .comment _ | .text _ => []
  | .element tag content children =>
    ⟨tag, content, children⟩ :: (elementsAll children ++ elementsOf content)

/-- The elements of nodes in document order. -/
def elementsAll : List Node → List Element
  | [] => []
  | node :: rest => elements node ++ elementsAll rest

/-- The elements of a content. -/
def elementsOf : Option (List Node) → List Element
  | none => []
  | some nodes => elementsAll nodes

end

theorem elementsAll_append (nodes more : List Node) :
    elementsAll (nodes ++ more) = elementsAll nodes ++ elementsAll more := by
  induction nodes with
  | nil => rfl
  | cons node rest ih => rw [List.cons_append, elementsAll, ih, elementsAll, List.append_assoc]

mutual

/-- With every content behind the children, no element has a content. -/
theorem content_of_mem_elements_inlineContents :
    (n : Node) → ∀ e ∈ elements n.inlineContents, e.content = none
  | .document children => content_of_mem_elementsAll_inlineContentsAll children
  | .doctype _ | .comment _ | .text _ => List.forall_mem_nil _
  | .element tag none children => by
    rw [Node.inlineContents, Node.inlineContentsOf, List.append_nil, elements, elementsOf,
      List.append_nil, List.forall_mem_cons]
    exact ⟨rfl, content_of_mem_elementsAll_inlineContentsAll children⟩
  | .element tag (some content) children => by
    rw [Node.inlineContents, Node.inlineContentsOf, elements, elementsOf, List.append_nil,
      elementsAll_append, List.forall_mem_cons, List.forall_mem_append]
    exact ⟨rfl, content_of_mem_elementsAll_inlineContentsAll children,
      content_of_mem_elementsAll_inlineContentsAll content⟩

/-- With every content behind the children, no element of a list of nodes has a content. -/
theorem content_of_mem_elementsAll_inlineContentsAll :
    (nodes : List Node) → ∀ e ∈ elementsAll (Node.inlineContentsAll nodes), e.content = none
  | [] => List.forall_mem_nil _
  | node :: rest => by
    rw [Node.inlineContentsAll, elementsAll, List.forall_mem_append]
    exact ⟨content_of_mem_elements_inlineContents node,
      content_of_mem_elementsAll_inlineContentsAll rest⟩

end

/-! ### Settled elements -/

/-- An element without a content in which nothing is left to relocate. -/
structure Element.Settled (e : Element) : Prop where
  content : e.content = none
  links : ∀ a ∈ e.tag.attributes, a.name ∈ Link.urlAttributes → Link.isAbsolutePath a.value = false
  script : CarriesScript e.tag → ∀ t, .text t ∈ e.children → ¬Roots.QuotesRoot t

/-- Relinking leaves no absolute path. -/
theorem isAbsolutePath_of_mem_relinkedTag {d : ℕ} {t : Tag} {a : Attribute}
    (ha : a ∈ (relinkedTag (UrlPath.wayToRoot d) t).attributes)
    (hname : a.name ∈ Link.urlAttributes) : Link.isAbsolutePath a.value = false := by
  obtain ⟨b, -, rfl⟩ := List.mem_map.mp ha
  rw [relinkedAttribute] at hname ⊢
  split_ifs at hname ⊢ with hurl
  · cases hlink : Link.relative? b.value (UrlPath.wayToRoot d) with
    | none =>
      rw [Link.relative?, ite_eq_right_iff] at hlink
      exact Bool.eq_false_iff.mpr fun h => Option.some_ne_none _ (hlink h)
    | some link => exact Link.isAbsolutePath_of_relative? hlink
  · exact absurd hname hurl

/-- Without absolute paths there is nothing to relink. -/
theorem relinkedTag_eq_self {t : Tag} (h : ∀ a ∈ t.attributes, a.name ∈ Link.urlAttributes →
    Link.isAbsolutePath a.value = false) (toRoot : String) : relinkedTag toRoot t = t := by
  have ha : ∀ a ∈ t.attributes, relinkedAttribute toRoot a = a := by
    intro a ha
    rw [relinkedAttribute]
    split_ifs with hurl
    · have hlink : Link.relative? a.value toRoot = none := by
        rw [Link.relative?, h a ha hurl, if_neg Bool.false_ne_true]
      rw [hlink]
    · rfl
  rw [relinkedTag, List.map_congr_left ha, List.map_id'']
  exact fun _ => rfl

theorem carriesScript_relinkedTag {toRoot : String} {t : Tag} :
    CarriesScript (relinkedTag toRoot t) ↔ CarriesScript t := by
  have hname : ∀ a, (relinkedAttribute toRoot a).name = a.name := by
    intro a
    rw [relinkedAttribute]
    split_ifs
    · cases Link.relative? a.value toRoot <;> rfl
    · rfl
  simp [CarriesScript, relinkedTag, hname]

/-! ### What a walk leaves -/

/-- The text in a relinked script. -/
theorem exists_of_text_mem_relinkedAll {toRoot : String} {nodes : List Node} {t : String}
    (h : .text t ∈ relinkedAll toRoot true nodes) : ∃ s, t = Roots.relativizeScript s toRoot := by
  induction nodes with
  | nil => cases h
  | cons node rest ih =>
    rw [relinkedAll] at h
    rcases List.mem_cons.mp h with heq | h
    · cases node with
      | text s => exact ⟨s, Node.text.inj heq⟩
      | document | doctype | comment | element => simp [relinked] at heq
    · exact ih h

mutual

/-- **Relinking settles every element** of a node without contents. -/
theorem settled_relinked {d : ℕ} {inScript : Bool} :
    {n : Node} → (∀ e ∈ elements n, e.content = none) →
      ∀ e ∈ elements (relinked (UrlPath.wayToRoot d) inScript n), e.Settled
  | .document children, h => settledAll_relinkedAll h
  | .element tag content children, h => by
    rw [elements, List.forall_mem_cons] at h
    obtain ⟨rfl, h⟩ := h
    rw [elementsOf, List.append_nil] at h
    rw [relinked, elements, elementsOf, List.append_nil, List.forall_mem_cons]
    refine ⟨⟨rfl, fun a ha hname => isAbsolutePath_of_mem_relinkedTag ha hname, ?_⟩,
      settledAll_relinkedAll h⟩
    intro hscript t ht
    have hscript' : CarriesScript tag := carriesScript_relinkedTag.mp hscript
    rw [decide_eq_true hscript'] at ht
    obtain ⟨s, rfl⟩ := exists_of_text_mem_relinkedAll ht
    exact Roots.not_quotesRoot_relativizeScript (Roots.isWay_wayToRoot d) s
  | .doctype _, _ => by simp [relinked, elements]
  | .comment _, _ => by simp [relinked, elements]
  | .text _, _ => by simp [relinked, elements]

/-- Relinking settles every element of nodes without contents. -/
theorem settledAll_relinkedAll {d : ℕ} {inScript : Bool} :
    {nodes : List Node} → (∀ e ∈ elementsAll nodes, e.content = none) →
      ∀ e ∈ elementsAll (relinkedAll (UrlPath.wayToRoot d) inScript nodes), e.Settled
  | [], _ => by simp [relinkedAll, elementsAll]
  | node :: rest, h => by
    rw [elementsAll, List.forall_mem_append] at h
    rw [relinkedAll, elementsAll, List.forall_mem_append]
    exact ⟨settled_relinked h.1, settledAll_relinkedAll h.2⟩

end

/-- The policy is no text. -/
theorem text_mem_of_withPolicyAll? {nodes placed : List Node} {t : String}
    (h : withPolicyAll? nodes = some placed) (ht : .text t ∈ placed) : .text t ∈ nodes := by
  induction nodes generalizing placed with
  | nil => simp [withPolicyAll?] at h
  | cons node rest ih =>
    rw [withPolicyAll?] at h
    cases hn : withPolicy? node with
    | some node' =>
      rw [hn] at h
      obtain rfl := Option.some.inj h
      refine List.mem_cons.mpr ((List.mem_cons.mp ht).imp (fun heq => ?_) id)
      subst heq
      -- a node that holds the policy is no text
      cases node with
      | text s => simp [withPolicy?] at hn
      | doctype | comment => simp [withPolicy?] at hn
      | document children =>
        obtain ⟨c, -, hc⟩ := Option.map_eq_some_iff.mp hn
        cases hc
      | element tag content children =>
        rw [withPolicy?] at hn
        split_ifs at hn
        · cases hn
        · obtain ⟨c, -, hc⟩ := Option.map_eq_some_iff.mp hn
          cases hc
    | none =>
      rw [hn] at h
      obtain ⟨placed', hplaced, rfl⟩ := Option.map_eq_some_iff.mp h
      exact List.mem_cons.mpr ((List.mem_cons.mp ht).imp id fun ht => ih hplaced ht)

/-- The policy is settled. -/
theorem settled_policy : ∀ e ∈ elements Policy.element, e.Settled := by
  have hone : elements Policy.element = [⟨policyTag, none, []⟩] := rfl
  intro e he
  rw [hone] at he
  obtain rfl := List.mem_singleton.mp he
  refine ⟨rfl, ?_, fun _ t ht => absurd ht List.not_mem_nil⟩
  simp [policyTag, Link.urlAttributes]

mutual

/-- **The policy leaves every element settled.** -/
theorem settled_withPolicy? : {n m : Node} → withPolicy? n = some m →
    (∀ e ∈ elements n, e.Settled) → ∀ e ∈ elements m, e.Settled
  | .document children, m, h, hn => by
    obtain ⟨placed, hplaced, rfl⟩ := Option.map_eq_some_iff.mp h
    exact settledAll_withPolicyAll? hplaced hn
  | .element tag content children, m, h, hn => by
    rw [elements, List.forall_mem_cons, List.forall_mem_append] at hn
    obtain ⟨htag, hchildren, hcontent⟩ := hn
    rw [withPolicy?] at h
    split_ifs at h with hhead
    · obtain rfl := Option.some.inj h
      rw [elements, elementsAll, List.forall_mem_cons, List.forall_mem_append,
        List.forall_mem_append]
      refine ⟨⟨htag.content, htag.links, fun hscript t ht => ?_⟩,
        ⟨settled_policy, hchildren⟩, hcontent⟩
      exact htag.script hscript t ((List.mem_cons.mp ht).resolve_left Node.noConfusion)
    · obtain ⟨placed, hplaced, rfl⟩ := Option.map_eq_some_iff.mp h
      rw [elements, List.forall_mem_cons, List.forall_mem_append]
      refine ⟨⟨htag.content, htag.links, fun hscript t ht => ?_⟩,
        settledAll_withPolicyAll? hplaced hchildren, hcontent⟩
      exact htag.script hscript t (text_mem_of_withPolicyAll? hplaced ht)
  | .doctype _, m, h, _ => by simp [withPolicy?] at h
  | .comment _, m, h, _ => by simp [withPolicy?] at h
  | .text _, m, h, _ => by simp [withPolicy?] at h

/-- The policy leaves every element of nodes settled. -/
theorem settledAll_withPolicyAll? : {nodes placed : List Node} →
    withPolicyAll? nodes = some placed → (∀ e ∈ elementsAll nodes, e.Settled) →
      ∀ e ∈ elementsAll placed, e.Settled
  | [], placed, h, _ => by simp [withPolicyAll?] at h
  | node :: rest, placed, h, hn => by
    rw [elementsAll, List.forall_mem_append] at hn
    rw [withPolicyAll?] at h
    cases hnode : withPolicy? node with
    | some node' =>
      rw [hnode] at h
      obtain rfl := Option.some.inj h
      rw [elementsAll, List.forall_mem_append]
      exact ⟨settled_withPolicy? hnode hn.1, hn.2⟩
    | none =>
      rw [hnode] at h
      obtain ⟨placed', hplaced, rfl⟩ := Option.map_eq_some_iff.mp h
      rw [elementsAll, List.forall_mem_append]
      exact ⟨hn.1, settledAll_withPolicyAll? hplaced hn.2⟩

end

/-! ### Another walk -/

mutual

/-- **A settled node is relinked already**, from whatever place. -/
theorem relinked_eq_self (toRoot : String) {inScript : Bool} :
    {n : Node} → (∀ e ∈ elements n, e.Settled) →
      (inScript = true → ∀ t, n = .text t → ¬Roots.QuotesRoot t) →
        relinked toRoot inScript n = n
  | .document children, h, _ => by
    rw [relinked, relinkedAll_eq_self toRoot h fun hfalse => absurd hfalse Bool.false_ne_true]
  | .element tag content children, h, _ => by
    rw [elements, List.forall_mem_cons, List.forall_mem_append] at h
    obtain ⟨htag, hchildren, -⟩ := h
    have hscript : decide (CarriesScript tag) = true →
        ∀ t, .text t ∈ children → ¬Roots.QuotesRoot t :=
      fun hdecide => htag.script (of_decide_eq_true hdecide)
    rw [relinked, relinkedTag_eq_self htag.links, relinkedAll_eq_self toRoot hchildren hscript]
  | .doctype _, _, _ => rfl
  | .comment _, _, _ => rfl
  | .text t, _, h => by
    rw [relinked]
    split_ifs with hscript
    · rw [Roots.relativizeScript_eq_self (h hscript t rfl)]
    · rfl

/-- Settled nodes are relinked already. -/
theorem relinkedAll_eq_self (toRoot : String) {inScript : Bool} :
    {nodes : List Node} → (∀ e ∈ elementsAll nodes, e.Settled) →
      (inScript = true → ∀ t, .text t ∈ nodes → ¬Roots.QuotesRoot t) →
        relinkedAll toRoot inScript nodes = nodes
  | [], _, _ => rfl
  | node :: rest, h, htext => by
    rw [elementsAll, List.forall_mem_append] at h
    rw [relinkedAll, relinked_eq_self toRoot h.1, relinkedAll_eq_self toRoot h.2]
    · exact fun hscript t ht => htext hscript t (List.mem_cons_of_mem node ht)
    · rintro hscript t rfl
      exact htext hscript t List.mem_cons_self

end

/-- **A walk settles a page for good.** Whether a head has been seen before or not, a walk over a
page without contents, from a place of whatever depth, leaves no URL attribute with an absolute path
of the site on any element and no quoted root of a bundle in the text of any inline script; and
another walk that has seen a head, from a place of whatever depth, leaves the page as it is. -/
theorem walk_settles (page : Node) (d : ℕ) (seenHead : Bool)
    (hplain : ∀ e ∈ elements page, e.content = none) :
    ∃ settled seen,
      walk (UrlPath.wayToRoot d) [] seenHead [] [page] = ([settled], seen) ∧
      (∀ e ∈ elements settled,
        (∀ a ∈ e.tag.attributes, a.name ∈ ["href", "src", "action", "poster", "data"] →
          Link.isAbsolutePath a.value = false) ∧
        (e.tag.name = "script" → (∀ a ∈ e.tag.attributes, a.name ≠ "src") →
          ∀ t, .text t ∈ e.children → ∀ quote ∈ ['"', '\''],
            ∀ root ∈ ["/static/", "/third_party/"], ¬quote :: root.toList <:+: t.toList)) ∧
      ∀ d', walk (UrlPath.wayToRoot d') [] true [] [settled] = ([settled], true) := by
  have hrelinked : ∀ e ∈ elements (relinked (UrlPath.wayToRoot d) false page), e.Settled :=
    settled_relinked hplain
  obtain ⟨settled, seen, hwalk, hsettled⟩ : ∃ settled seen,
      walk (UrlPath.wayToRoot d) [] seenHead [] [page] = ([settled], seen) ∧
        ∀ e ∈ elements settled, e.Settled := by
    cases seenHead with
    | true => exact ⟨_, _, walk_page_of_seenHead _ page, hrelinked⟩
    | false =>
      refine ⟨_, _, walk_page _ page, ?_⟩
      cases hpolicy : withPolicy? (relinked (UrlPath.wayToRoot d) false page) with
      | none => exact hrelinked
      | some placed => exact settled_withPolicy? hpolicy hrelinked
  refine ⟨settled, seen, hwalk, fun e he => ⟨(hsettled e he).links, ?_⟩, fun d' => ?_⟩
  · intro hname hsrc t ht quote hquote root hroot hin
    exact (hsettled e he).script ⟨hname, hsrc⟩ t ht ⟨quote, hquote, root, hroot, hin⟩
  · rw [walk_page_of_seenHead, relinked_eq_self _ hsettled]
    exact fun hfalse => absurd hfalse Bool.false_ne_true

/-- A page with a link and a script that are to be relocated, and a text that is not. -/
def unsettled : Node :=
  .document
    [.element { name := "head" } none
      [.element { name := "script" } none [.text "load('/static/a.js')"]],
     .element { name := "a", attributes := [{ name := "href", value := "/about" }] } none
      [.text "'/static/'"]]

/-- The page is not settled before the walk, and it is behind it. -/
theorem walk_settles_unsettled :
    ((∀ e ∈ elements unsettled, e.content = none) ∧ ¬∀ e ∈ elements unsettled, e.Settled) ∧
      ∃ settled seen,
        walk (UrlPath.wayToRoot 2) [] false [] [unsettled] = ([settled], seen) ∧
        (∀ e ∈ elements settled,
          (∀ a ∈ e.tag.attributes, a.name ∈ ["href", "src", "action", "poster", "data"] →
            Link.isAbsolutePath a.value = false) ∧
          (e.tag.name = "script" → (∀ a ∈ e.tag.attributes, a.name ≠ "src") →
            ∀ t, .text t ∈ e.children → ∀ quote ∈ ['"', '\''],
              ∀ root ∈ ["/static/", "/third_party/"], ¬quote :: root.toList <:+: t.toList)) ∧
        ∀ d', walk (UrlPath.wayToRoot d') [] true [] [settled] = ([settled], true) := by
  have helements : elements unsettled =
      [⟨{ name := "head" }, none,
          [.element { name := "script" } none [.text "load('/static/a.js')"]]⟩,
        ⟨{ name := "script" }, none, [.text "load('/static/a.js')"]⟩,
        ⟨{ name := "a", attributes := [{ name := "href", value := "/about" }] }, none,
          [.text "'/static/'"]⟩] := rfl
  have hplain : ∀ e ∈ elements unsettled, e.content = none := by
    rw [helements]
    simp
  refine ⟨⟨hplain, fun h => ?_⟩, walk_settles unsettled 2 false hplain⟩
  rw [helements] at h
  have hlink := (h _ (.tail _ (.tail _ (.head _)))).links _ (.head _) (by decide)
  exact absurd hlink (by decide)

end Page

end SiteSnapshot
