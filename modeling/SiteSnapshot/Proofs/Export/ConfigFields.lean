import Mathlib.Data.List.Nodup
import Mathlib.Data.List.Perm.Basic
import SiteSnapshot.Export.Config
import SiteSnapshot.Proofs.Json.Reading

/-!
# The fields of a configuration

A configuration is read field by field. Which values a field takes (`Field.Takes`) and which of them
a configuration holds (`Holds`) is said for each field, and setting one leaves the others alone
(`set_eq_ok_iff`). From this step a run over the members of an object is described by induction on
them: it comes through exactly if they are distinct fields, each with a value that it takes
(`exists_setMembers_iff`), and what it leaves holds the values of the members and agrees on every
other field with what it started from (`describes_of_setMembers`). Neither depends on the order of
the members.

A value that a field takes is flat, hence read as it is written. So it makes no difference to
a configuration where the reader stops in an object that exceeds its limits (`ofText_eq_ok_iff`).
-/

namespace SiteSnapshot

/-! ### Values of one type -/

theorem JsonNumber.natural?_eq_some_iff {n : JsonNumber} {k : ℕ} :
    n.natural? = some k ↔
      ∃ digits, n = { whole := digits } ∧ decimal digits < limit ∧ decimal digits = k := by
  obtain ⟨negative, whole, fraction, exponent⟩ := n
  simp only [natural?, Option.ite_none_right_eq_some, Option.some.injEq,
    mk.injEq]
  constructor
  · rintro ⟨⟨rfl, rfl, rfl, hlimit⟩, hk⟩
    exact ⟨whole, ⟨rfl, rfl, rfl, rfl⟩, hlimit, hk⟩
  · rintro ⟨digits, ⟨rfl, rfl, rfl, rfl⟩, hlimit, hk⟩
    exact ⟨⟨rfl, rfl, rfl, hlimit⟩, hk⟩

namespace Json

theorem natural?_eq_ok_iff {v : Json} {k : ℕ} :
    natural? v = .ok k ↔ ∃ digits, v = .number { whole := digits } ∧
      JsonNumber.decimal digits < Nat.pow 2 64 ∧ JsonNumber.decimal digits = k := by
  cases v with
  | number n =>
    have hn : natural? (.number n) = .ok k ↔ n.natural? = some k := by
      cases h : n.natural? <;> simp [natural?, h]
    simp only [hn, JsonNumber.natural?_eq_some_iff, number.injEq]
    rfl
  | _ => simp [natural?]

theorem optional?_string_eq_ok_iff {v : Json} {icon : Option String} :
    optional? string? v = .ok icon ↔ v = icon.elim .null .string := by
  cases icon <;> cases v <;> simp [optional?, string?, Except.map]

theorem mapM_string?_eq_ok_iff {vs : List Json} {ss : List String} :
    vs.mapM string? = .ok ss ↔ vs = ss.map .string := by
  induction vs generalizing ss with
  | nil => cases ss <;> simp [pure, Except.pure]
  | cons v vs ih =>
    rw [List.mapM_cons]
    cases v with
    | string s =>
      cases ss with
      | nil => cases vs.mapM string? <;> simp [string?, bind, Except.bind, pure, Except.pure]
      | cons t ss =>
        rw [List.map_cons, List.cons.injEq, ← ih]
        cases vs.mapM string? <;> simp [string?, bind, Except.bind, pure, Except.pure]
    | _ => cases ss <;> simp [string?, bind, Except.bind]

theorem list?_string_eq_ok_iff {v : Json} {ss : List String} :
    list? string? v = .ok ss ↔ v = .array (ss.map .string) none := by
  cases v with
  | array vs ending =>
    rw [array.injEq, ← mapM_string?_eq_ok_iff, list?]
    cases vs.mapM string? <;> cases ending <;>
      simp [bind, Except.bind, pure, Except.pure, closed?]
  | _ => simp [list?]

end Json

namespace ExportConfig

variable {c d d' : ExportConfig} {field : Field} {v : Json} {key : String} {done : List Field}
  {members members' : List (String × Json)}

/-! ### One field -/

/-- The values that a field takes. -/
def Field.Takes : Field → Json → Prop
  | .staticPages, v => ∃ pages : List String, v = .array (pages.map .string) none
  | .favicon, v => v = .null ∨ ∃ icon, v = .string icon
  | .jobs, v | .requestTimeoutSecs, v =>
    ∃ digits, v = .number { whole := digits } ∧ JsonNumber.decimal digits < Nat.pow 2 64

/-- A value of a field is what a configuration holds there. -/
def Holds (c : ExportConfig) : Field → Json → Prop
  | .staticPages, v => v = .array (c.staticPages.map .string) none
  | .favicon, v => v = c.favicon.elim .null .string
  | .jobs, v => ∃ digits, v = .number { whole := digits } ∧
      JsonNumber.decimal digits < Nat.pow 2 64 ∧ JsonNumber.decimal digits = c.jobs
  | .requestTimeoutSecs, v => ∃ digits, v = .number { whole := digits } ∧
      JsonNumber.decimal digits < Nat.pow 2 64 ∧ JsonNumber.decimal digits = c.requestTimeoutSecs

/-- Two configurations are the same in a field. -/
def Agrees (c d : ExportConfig) : Field → Prop
  | .staticPages => c.staticPages = d.staticPages
  | .favicon => c.favicon = d.favicon
  | .jobs => c.jobs = d.jobs
  | .requestTimeoutSecs => c.requestTimeoutSecs = d.requestTimeoutSecs

theorem Agrees.trans {e : ExportConfig} (h : c.Agrees d field) (h' : d.Agrees e field) :
    c.Agrees e field := by
  cases field <;> exact Eq.trans h h'

theorem Agrees.symm (h : c.Agrees d field) : d.Agrees c field := by
  cases field <;> exact Eq.symm h

theorem eq_of_agrees (h : ∀ field, c.Agrees d field) : c = d := by
  obtain ⟨pages, icon, jobs, timeout⟩ := c
  obtain ⟨pages', icon', jobs', timeout'⟩ := d
  obtain rfl : pages = pages' := h .staticPages
  obtain rfl : icon = icon' := h .favicon
  obtain rfl : jobs = jobs' := h .jobs
  obtain rfl : timeout = timeout' := h .requestTimeoutSecs
  rfl

theorem Agrees.holds_iff (h : c.Agrees d field) : c.Holds field v ↔ d.Holds field v := by
  cases field <;> simp only [Agrees] at h <;> simp only [Holds, h]

/-- A value says what is held. -/
theorem agrees_of_holds (h : c.Holds field v) (h' : d.Holds field v) : c.Agrees d field := by
  cases field with
  | staticPages =>
    have hpages := (Json.array.inj (h.symm.trans h')).1
    exact List.map_injective_iff.mpr (fun _ _ => Json.string.inj) hpages
  | favicon =>
    have hicon := h.symm.trans h'
    simp only [Agrees]
    cases hc : c.favicon <;> cases hd : d.favicon <;> simp [hc, hd] at hicon ⊢
    exact hicon
  | jobs | requestTimeoutSecs =>
    obtain ⟨digits, rfl, -, hc⟩ := h
    obtain ⟨digits', heq, -, hd⟩ := h'
    obtain rfl : digits = digits' := (JsonNumber.mk.inj (Json.number.inj heq)).2.1
    exact hc.symm.trans hd

/-- What a field is set to, when it is set to what is read off a value. -/
theorem map_eq_ok_iff_agrees {α : Type} {x : Except JsonProblem α} {put : α → ExportConfig}
    {get : ExportConfig → α} (hself : ∀ a d, (put a).Agrees d field ↔ a = get d)
    (hothers : ∀ a other, other ≠ field → (put a).Agrees c other) :
    x.map put = .ok d ↔ x = .ok (get d) ∧ ∀ other, other ≠ field → d.Agrees c other := by
  constructor
  · intro h
    cases x with
    | error p => cases h
    | ok a =>
      obtain rfl := Except.ok.inj h
      exact ⟨congrArg _ ((hself a _).mp (by cases field <;> rfl)), hothers a⟩
  · rintro ⟨rfl, h⟩
    refine congrArg Except.ok (eq_of_agrees fun other => ?_)
    by_cases hother : other = field
    · rw [hother]
      exact (hself _ d).mpr rfl
    · exact (hothers _ other hother).trans (h other hother).symm

/-- **Setting one field**: it is what the value says, and the others are left alone. -/
theorem set_eq_ok_iff : c.set v field = .ok d ↔
    d.Holds field v ∧ ∀ other, other ≠ field → d.Agrees c other := by
  cases field with
  | staticPages =>
    refine (map_eq_ok_iff_agrees (fun _ _ => Iff.rfl) ?_).trans
      (and_congr_left' Json.list?_string_eq_ok_iff)
    rintro pages (_ | _ | _ | _) hne <;> first | rfl | exact absurd rfl hne
  | favicon =>
    refine (map_eq_ok_iff_agrees (fun _ _ => Iff.rfl) ?_).trans
      (and_congr_left' Json.optional?_string_eq_ok_iff)
    rintro icon (_ | _ | _ | _) hne <;> first | rfl | exact absurd rfl hne
  | jobs | requestTimeoutSecs =>
    refine (map_eq_ok_iff_agrees (fun _ _ => Iff.rfl) ?_).trans
      (and_congr_left' Json.natural?_eq_ok_iff)
    rintro n (_ | _ | _ | _) hne <;> first | rfl | exact absurd rfl hne

/-- A field is set to the values that it takes. -/
theorem exists_set_iff : (∃ d, c.set v field = .ok d) ↔ field.Takes v := by
  have hmap : ∀ {α : Type} {x : Except JsonProblem α} {put : α → ExportConfig},
      (∃ d, x.map put = .ok d) ↔ ∃ a, x = .ok a := by
    intro α x put
    cases x <;> simp [Except.map]
  cases field with
  | staticPages => simp only [set, hmap, Json.list?_string_eq_ok_iff, Field.Takes]
  | favicon =>
    simp only [set, hmap, Json.optional?_string_eq_ok_iff, Field.Takes, Option.exists, Option.elim]
  | jobs | requestTimeoutSecs =>
    simp only [set, hmap, Json.natural?_eq_ok_iff, Field.Takes]
    constructor
    · rintro ⟨n, digits, hv, hlimit, -⟩
      exact ⟨digits, hv, hlimit⟩
    · rintro ⟨digits, hv, hlimit⟩
      exact ⟨_, digits, hv, hlimit, rfl⟩

/-- What a field takes has nothing nested in it. -/
theorem Field.Takes.flat (h : field.Takes v) : Json.Flat v := by
  cases field with
  | staticPages =>
    obtain ⟨pages, rfl⟩ := h
    exact .strings pages
  | favicon =>
    obtain rfl | ⟨icon, rfl⟩ := h
    · exact .null
    · exact .string icon
  | jobs | requestTimeoutSecs =>
    obtain ⟨digits, rfl, hlimit⟩ := h
    refine .natural ?_
    rw [JsonNumber.natural?_eq_some_iff.mpr ⟨digits, rfl, hlimit, rfl⟩]
    exact Option.some_ne_none _

/-! ### The members of an object -/

theorem lookup_eq_some_iff : fields.lookup key = some field ↔ (key, field) ∈ fields := by
  constructor
  · intro h
    obtain ⟨before, behind, heq, -⟩ := List.lookup_eq_some_iff.mp h
    rw [heq]
    exact List.mem_append_right _ List.mem_cons_self
  · intro h
    simp only [fields, List.mem_cons, Prod.mk.injEq, List.not_mem_nil, or_false] at h
    obtain ⟨rfl, rfl⟩ | ⟨rfl, rfl⟩ | ⟨rfl, rfl⟩ | ⟨rfl, rfl⟩ := h <;> rfl

/-- A key names one field. -/
theorem field_inj {field' : Field} (h : (key, field) ∈ fields) (h' : (key, field') ∈ fields) :
    field = field' :=
  Option.some.inj ((lookup_eq_some_iff.mpr h).symm.trans (lookup_eq_some_iff.mpr h'))

/-- A field has one name. -/
theorem key_inj {key' : String} (h : (key, field) ∈ fields) (h' : (key', field) ∈ fields) :
    key = key' := by
  simp only [fields, List.mem_cons, Prod.mk.injEq, List.not_mem_nil, or_false] at h h'
  cases field <;> simp_all

/-- **One step**: the first member is a field that is not set yet, and the others are set behind
it. -/
theorem setMembers_cons_eq_ok_iff : setMembers c done ((key, v) :: members) = .ok d ↔
    ∃ field c', (key, field) ∈ fields ∧ field ∉ done ∧ c.set v field = .ok c' ∧
      setMembers c' (field :: done) members = .ok d := by
  simp only [← lookup_eq_some_iff]
  rw [setMembers]
  cases hlookup : fields.lookup key with
  | none => simp
  | some field =>
    by_cases hdone : field ∈ done
    · simp [hdone]
    · cases hset : c.set v field <;> simp [hdone, hset]

/-- Members that are set: distinct fields, none of them set before, each with a value that it
takes. -/
structure Settable (done : List Field) (members : List (String × Json)) : Prop where
  takes : ∀ m ∈ members, ∃ field, (m.1, field) ∈ fields ∧ field ∉ done ∧ field.Takes m.2
  nodup : (members.map (·.1)).Nodup

theorem settable_nil_iff : Settable [] members ↔
    (∀ m ∈ members, ∃ field, (m.1, field) ∈ fields ∧ field.Takes m.2) ∧
      (members.map (·.1)).Nodup := by
  refine ⟨fun h => ⟨fun m hm => ?_, h.nodup⟩, fun h => ⟨fun m hm => ?_, h.2⟩⟩
  · obtain ⟨field, hkey, -, hv⟩ := h.takes m hm
    exact ⟨field, hkey, hv⟩
  · obtain ⟨field, hkey, hv⟩ := h.1 m hm
    exact ⟨field, hkey, List.not_mem_nil, hv⟩

theorem Settable.perm (h : Settable done members) (hperm : members.Perm members') :
    Settable done members' :=
  ⟨fun m hm => h.takes m (hperm.mem_iff.mpr hm), (hperm.map _).nodup_iff.mp h.nodup⟩

/-- A field that is set already is none of those to be set. -/
theorem Settable.not_mem_fields (h : Settable done members) (hdone : field ∈ done)
    {m : String × Json} (hm : m ∈ members) : (m.1, field) ∉ fields := by
  intro hfield
  obtain ⟨field', hfield', hdone', -⟩ := h.takes m hm
  exact hdone' (field_inj hfield hfield' ▸ hdone)

theorem settable_cons_iff : Settable done ((key, v) :: members) ↔
    ∃ field, (key, field) ∈ fields ∧ field ∉ done ∧ field.Takes v ∧
      Settable (field :: done) members := by
  constructor
  · rintro ⟨htakes, hnodup⟩
    rw [List.map_cons, List.nodup_cons] at hnodup
    obtain ⟨field, hkey, hdone, hv⟩ := htakes (key, v) List.mem_cons_self
    refine ⟨field, hkey, hdone, hv, fun m hm => ?_, hnodup.2⟩
    obtain ⟨field', hkey', hdone', hv'⟩ := htakes m (List.mem_cons_of_mem _ hm)
    refine ⟨field', hkey', ?_, hv'⟩
    -- another member with this field would have its name
    rintro (_ | ⟨_, hmem⟩)
    · exact hnodup.1 (key_inj hkey hkey' ▸ List.mem_map_of_mem hm)
    · exact hdone' hmem
  · rintro ⟨field, hkey, hdone, hv, hrest⟩
    refine ⟨fun m hm => ?_, ?_⟩
    · obtain rfl | hm := List.mem_cons.mp hm
      · exact ⟨field, hkey, hdone, hv⟩
      · obtain ⟨field', hkey', hdone', hv'⟩ := hrest.takes m hm
        exact ⟨field', hkey', fun h => hdone' (List.mem_cons_of_mem _ h), hv'⟩
    · refine List.nodup_cons.mpr ⟨fun hmem => ?_, hrest.nodup⟩
      obtain ⟨m, hm, rfl⟩ := List.mem_map.mp hmem
      exact hrest.not_mem_fields List.mem_cons_self hm hkey

/-- **A run over the members** comes through exactly if they are settable. -/
theorem exists_setMembers_iff :
    (∃ d, setMembers c done members = .ok d) ↔ Settable done members := by
  induction members generalizing c done with
  | nil => exact ⟨fun _ => ⟨by simp, List.nodup_nil⟩, fun _ => ⟨c, rfl⟩⟩
  | cons m members ih =>
    obtain ⟨key, v⟩ := m
    simp only [setMembers_cons_eq_ok_iff, settable_cons_iff]
    constructor
    · rintro ⟨d, field, c', hkey, hdone, hset, hrest⟩
      exact ⟨field, hkey, hdone, exists_set_iff.mp ⟨c', hset⟩, ih.mp ⟨d, hrest⟩⟩
    · rintro ⟨field, hkey, hdone, hv, hrest⟩
      obtain ⟨c', hset⟩ := exists_set_iff.mpr hv
      obtain ⟨d, hd⟩ := ih.mpr hrest
      exact ⟨d, field, c', hkey, hdone, hset, hd⟩

/-- What a run leaves: the values of the members, and every other field as before. -/
structure Describes (c : ExportConfig) (members : List (String × Json)) (d : ExportConfig) :
    Prop where
  holds : ∀ m ∈ members, ∀ field, (m.1, field) ∈ fields → d.Holds field m.2
  agrees : ∀ field, (∀ m ∈ members, (m.1, field) ∉ fields) → d.Agrees c field

/-- **What a run leaves**, by induction on the members: a field that is set is not set again. -/
theorem describes_of_setMembers (h : setMembers c done members = .ok d) :
    Describes c members d := by
  induction members generalizing c done with
  | nil =>
    obtain rfl := Except.ok.inj h
    exact ⟨by simp, fun field _ => by cases field <;> rfl⟩
  | cons m members ih =>
    obtain ⟨key, v⟩ := m
    obtain ⟨field, c', hkey, -, hset, hrest⟩ := setMembers_cons_eq_ok_iff.mp h
    obtain ⟨hholds, hothers⟩ := set_eq_ok_iff.mp hset
    have hlater := ih hrest
    have hagain : d.Agrees c' field := hlater.agrees field fun m hm =>
      (exists_setMembers_iff.mp ⟨d, hrest⟩).not_mem_fields List.mem_cons_self hm
    refine ⟨fun m hm field' hkey' => ?_, fun field' hkey' => ?_⟩
    · obtain rfl | hm := List.mem_cons.mp hm
      · obtain rfl := field_inj hkey hkey'
        exact hagain.holds_iff.mpr hholds
      · exact hlater.holds m hm field' hkey'
    · have hne : field' ≠ field := by
        rintro rfl
        exact hkey' (key, v) List.mem_cons_self hkey
      exact (hlater.agrees field' fun m hm => hkey' m (List.mem_cons_of_mem _ hm)).trans
        (hothers field' hne)

/-- Members describe one configuration, whatever their order. -/
theorem Describes.eq_of_perm (h : Describes c members d) (h' : Describes c members' d')
    (hperm : members.Perm members') : d = d' := by
  refine eq_of_agrees fun field => ?_
  by_cases hfield : ∃ m ∈ members, (m.1, field) ∈ fields
  · obtain ⟨m, hm, hkey⟩ := hfield
    exact agrees_of_holds (h.holds m hm field hkey) (h'.holds m (hperm.mem_iff.mp hm) field hkey)
  · have habsent : ∀ m ∈ members, (m.1, field) ∉ fields := fun m hm hkey => hfield ⟨m, hm, hkey⟩
    exact (h.agrees field habsent).trans
      (h'.agrees field fun m hm => habsent m (hperm.mem_iff.mpr hm)).symm

/-! ### A whole text -/

theorem ofText_eq_ok_iff_of_read {text : String}
    (h : Json.read text = (.object members none, none)) :
    ofText text = .ok c ↔
      ∃ d, setMembers {} [] members = .ok d ∧ c = { d with jobs := max 1 d.jobs } := by
  rw [ofText, Json.readAs, h]
  cases hset : setMembers {} [] members <;>
    simp [ofJson, hset, bind, Except.bind, pure, Except.pure, Json.closed?, eq_comm]

/-- A text of an object is read as its members are set. If the reader stops in a member, then
neither what stands there nor what is read of it is a value that a field takes. -/
theorem ofText_eq_ok_iff {text : String} (h : Json.IsText (.object members none) text) :
    ofText text = .ok c ↔
      ∃ d, setMembers {} [] members = .ok d ∧ c = { d with jobs := max 1 d.jobs } := by
  obtain hread | ⟨before, key, v, v', behind, rfl, hv, hv', hread⟩ := Json.read_of_isText_object h
  · exact ofText_eq_ok_iff_of_read hread
  · have hnot : ∀ {members : List (String × Json)} {d : ExportConfig} (m : String × Json),
        m ∈ members → ¬Json.Flat m.2 → setMembers {} [] members ≠ .ok d := by
      intro members d m hm hflat hset
      obtain ⟨field, -, -, htakes⟩ := (exists_setMembers_iff.mp ⟨d, hset⟩).takes m hm
      exact hflat htakes.flat
    rw [ofText_eq_ok_iff_of_read hread]
    constructor
    · rintro ⟨d, hset, -⟩
      exact absurd hset (hnot (key, v') (by simp) hv')
    · rintro ⟨d, hset, -⟩
      exact absurd hset (hnot (key, v) (by simp) hv)

/-- A text is accepted exactly if its members are settable. -/
theorem exists_ofText_iff {text : String} (h : Json.IsText (.object members none) text) :
    (∃ c, ofText text = .ok c) ↔ Settable [] members := by
  rw [← exists_setMembers_iff]
  simp only [ofText_eq_ok_iff h]
  constructor
  · rintro ⟨_, d, hset, -⟩
    exact ⟨d, hset⟩
  · rintro ⟨d, hset⟩
    exact ⟨_, d, hset, rfl⟩

/-- From a permutation of the members the same is read. -/
theorem ofText_eq_ok_of_perm {text text' : String} (h : Json.IsText (.object members none) text)
    (h' : Json.IsText (.object members' none) text') (hperm : members.Perm members')
    (hc : ofText text = .ok c) : ofText text' = .ok c := by
  obtain ⟨d, hset, hjobs⟩ := (ofText_eq_ok_iff h).mp hc
  have hsettable : Settable [] members := exists_setMembers_iff.mp ⟨d, hset⟩
  obtain ⟨d', hset'⟩ := exists_setMembers_iff.mpr (hsettable.perm hperm)
  obtain rfl : d = d' :=
    (describes_of_setMembers hset).eq_of_perm (describes_of_setMembers hset') hperm
  exact (ofText_eq_ok_iff h').mpr ⟨d, hset', hjobs⟩

/-- **A configuration is read field by field**, strictly and in any order. An object is accepted
exactly if its members are distinct fields, each with a value that it takes; the configuration holds
these values, with at least one page in progress, and the defaults for the other fields; and from
a permutation of the members the same is read. -/
theorem ofText_object {text : String} (h : Json.IsText (.object members none) text) :
    ((∃ c, ofText text = .ok c) ↔
      (∀ m ∈ members, ∃ field, (m.1, field) ∈ fields ∧ field.Takes m.2) ∧
        (members.map (·.1)).Nodup) ∧
    (∀ c, ofText text = .ok c →
      ∃ d, Describes {} members d ∧ c = { d with jobs := max 1 d.jobs }) ∧
    ∀ members' text', members.Perm members' → Json.IsText (.object members' none) text' →
      ∀ c, ofText text' = .ok c ↔ ofText text = .ok c := by
  refine ⟨(exists_ofText_iff h).trans settable_nil_iff, fun c hc => ?_,
    fun members' text' hperm h' c => ?_⟩
  · obtain ⟨d, hset, hjobs⟩ := (ofText_eq_ok_iff h).mp hc
    exact ⟨d, describes_of_setMembers hset, hjobs⟩
  · exact ⟨ofText_eq_ok_of_perm h' h hperm.symm, ofText_eq_ok_of_perm h h' hperm⟩

/-- Texts of two members in either order. -/
theorem isText_twoMembers :
    Json.IsText (.object [("favicon", .null), ("jobs", .number { whole := ['0'] })] none)
        "\x7b\"favicon\":null,\"jobs\":0\x7d" ∧
      Json.IsText (.object [("jobs", .number { whole := ['0'] }), ("favicon", .null)] none)
        "\x7b \"jobs\":0,\"favicon\":null\x7d" := by
  have hnil : Json.AllBlank [] := fun c hc => absurd hc List.not_mem_nil
  have hspace : Json.AllBlank [' '] := List.forall_mem_singleton.mpr rfl
  have hzero : Json.NumberText { whole := ['0'] } ['0'] :=
    .mk ⟨List.cons_ne_nil _ _, List.forall_mem_singleton.mpr rfl⟩ (fun _ => rfl) .none .none
  have hkey : Json.StringText ['f', 'a', 'v', 'i', 'c', 'o', 'n']
      ['f', 'a', 'v', 'i', 'c', 'o', 'n'] := .of_plain (by simp)
  have hkey' : Json.StringText ['j', 'o', 'b', 's'] ['j', 'o', 'b', 's'] := .of_plain (by simp)
  have hfavicon := Json.PartText.member hkey hnil hnil .null
  have hjobs := Json.PartText.member hkey' hnil hnil (.number hzero)
  exact ⟨⟨[], _, [], hnil, .object (.nextMember hnil hnil hfavicon (.lastMember hnil hnil hjobs)),
      hnil, rfl⟩,
    ⟨[], _, [], hnil, .object (.nextMember hspace hnil hjobs (.lastMember hnil hnil hfavicon)),
      hnil, rfl⟩⟩

/-- Two members are read alike in either order. -/
theorem ofText_object_twoMembers :
    Json.IsText (.object [("favicon", .null), ("jobs", .number { whole := ['0'] })] none)
        "\x7b\"favicon\":null,\"jobs\":0\x7d" ∧
      ∃ c, ofText "\x7b\"favicon\":null,\"jobs\":0\x7d" = .ok c ∧
        ofText "\x7b \"jobs\":0,\"favicon\":null\x7d" = .ok c ∧ c.favicon = none ∧ c.jobs = 1 := by
  obtain ⟨htext, htext'⟩ := isText_twoMembers
  obtain ⟨haccepted, hresult, hpermuted⟩ := ofText_object htext
  have hfields : ∀ m ∈ [("favicon", Json.null), ("jobs", .number { whole := ['0'] })],
      ∃ field, (m.1, field) ∈ fields ∧ field.Takes m.2 := by
    intro m hm
    obtain rfl | hm := List.mem_cons.mp hm
    · exact ⟨.favicon, by decide, .inl rfl⟩
    · obtain rfl := List.mem_singleton.mp hm
      exact ⟨.jobs, by decide, ['0'], rfl, by decide⟩
  obtain ⟨c, hc⟩ := haccepted.mpr ⟨hfields, by decide⟩
  obtain ⟨d, hd, rfl⟩ := hresult c hc
  have hnull : Json.null = d.favicon.elim .null .string :=
    hd.holds _ List.mem_cons_self .favicon (by decide)
  obtain ⟨digits, hdigits, -, hzero⟩ := hd.holds ("jobs", .number { whole := ['0'] })
    (List.mem_cons_of_mem _ List.mem_cons_self) .jobs (by decide)
  obtain rfl : ['0'] = digits := (JsonNumber.mk.inj (Json.number.inj hdigits)).2.1
  refine ⟨htext, _, hc, (hpermuted _ _ (List.Perm.swap ..) htext' _).mpr hc, ?_, ?_⟩
  · cases hicon : d.favicon with
    | none => rfl
    | some icon => simp [hicon] at hnull
  · rw [← hzero]
    rfl

end ExportConfig

end SiteSnapshot
