import Mathlib.Data.Nat.Notation
import SiteSnapshot.Export.Run

/-!
# The events of a run

A run does two things that are seen from outside: it announces what it is about to do, and it
requests paths of the site. The events of a run hold both in one order; `Event.announcements` and
`Event.requests` tell them apart. Pages are announced under numbers (`Event.numbered`).
-/

namespace SiteSnapshot

namespace Event

variable {events : List Event}

/-- The announcements among events. -/
def announcements (events : List Event) : List Event :=
  events.filter (·.request?.isNone)

/-- The paths that are requested, in order. -/
def requests (events : List Event) : List String :=
  events.filterMap request?

/-- The announcements of pages under one number after the other, from an index on. -/
def numbered (total : ℕ) : ℕ → List String → List Event
  | _, [] => []
  | index, path :: rest => .page index total path :: numbered total (index + 1) rest

@[simp]
theorem announcements_append (events more : List Event) :
    announcements (events ++ more) = announcements events ++ announcements more :=
  List.filter_append ..

@[simp]
theorem requests_append (events more : List Event) :
    requests (events ++ more) = requests events ++ requests more :=
  List.filterMap_append

@[simp]
theorem announcements_pageRequests (e : Export) (path : String) :
    announcements (e.pageRequests path) = [] := by
  rw [announcements, List.filter_eq_nil_iff]
  intro event hevent
  obtain ⟨requested, -, rfl⟩ := List.mem_map.mp hevent
  simp [request?]

@[simp]
theorem requests_pageRequests (e : Export) (path : String) :
    requests (e.pageRequests path) = (Crawl.visit e.router path).requested := by
  rw [requests, Export.pageRequests, List.filterMap_map]
  exact List.filterMap_some

@[simp]
theorem announcements_page (index total : ℕ) (path : String) (rest : List Event) :
    announcements (.page index total path :: rest) = .page index total path :: announcements rest :=
  List.filter_cons_of_pos rfl

@[simp]
theorem requests_page (index total : ℕ) (path : String) (rest : List Event) :
    requests (.page index total path :: rest) = requests rest :=
  List.filterMap_cons_none rfl

/-- Announcements are events. -/
theorem mem_announcements_iff {event : Event} {events : List Event} (h : event.request? = none) :
    event ∈ announcements events ↔ event ∈ events := by
  simp [announcements, h]

/-- Only pages are announced under numbers. -/
theorem exists_of_mem_numbered {event : Event} {total index : ℕ} {pages : List String}
    (h : event ∈ numbered total index pages) : ∃ i page, event = .page i total page := by
  induction pages generalizing index with
  | nil => cases h
  | cons page rest ih =>
    rcases List.mem_cons.mp h with rfl | h
    · exact ⟨index, page, rfl⟩
    · exact ih h

theorem numbered_append (total index : ℕ) (paths more : List String) :
    numbered total index (paths ++ more) =
      numbered total index paths ++ numbered total (index + paths.length) more := by
  induction paths generalizing index with
  | nil => rfl
  | cons path rest ih =>
    rw [List.cons_append, numbered, numbered, ih, List.cons_append, List.length_cons]
    congr 3
    omega

end Event

end SiteSnapshot
