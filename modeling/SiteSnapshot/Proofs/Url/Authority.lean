import Mathlib.Data.List.Basic
import SiteSnapshot.Url.Parse

/-!
# Authorities

What stands between the two slashes of a URL and its path: user name and password, host and
port. `readAuthority_eq_ok_iff` says what is read from it in a URL of the web, and
`exists_of_readAuthority` what holds of any URL with an authority.
-/

namespace SiteSnapshot.Url

/-! ### The parts of an authority -/

/-- The authority at the start of what follows the two slashes of a URL of the web. -/
def authorityOf (text : List Char) : List Char :=
  text.takeWhile fun c => !(endsSegment true c || c == '?' || c == '#')

/-- User name and password of an authority, empty if there are none. -/
def userOf (authority : List Char) : String × String :=
  ((splitLastAt authority).map fun parts => readUserInfo parts.1).getD ("", "")

/-- Host and port of an authority. -/
def hostPortOf (authority : List Char) : List Char :=
  ((splitLastAt authority).map (·.2)).getD authority

/-- Reads the port of a host and port. -/
def portOf (scheme : String) (hostPort : List Char) : Except UrlError (Option Nat) :=
  let portText := hostPort.drop (hostPart hostPort).length
  if portText.isEmpty then .ok none else readPort scheme (portText.drop 1)

/-- The path behind an authority. -/
def rootedBody (scheme : String) : List Char → UrlBody
  | [] => .segments [""]
  | c :: path =>
    if endsSegment true c then readPath scheme [] path else readPath scheme [] (c :: path)

/-- The URL with an authority, once its host and its port are read. -/
def withAuthority (scheme : String) (text : List Char) (host : Host) (port : Option Nat) : Url :=
  let authority := authorityOf text
  let tail := splitTail (text.drop authority.length)
  withTail
    { scheme
      username := (userOf authority).1
      password := (userOf authority).2
      host := some host
      port
      body := rootedBody scheme tail.1 } tail.2.1 tail.2.2

variable {scheme : String} {text : List Char} {u : Url}

/-- An authority of the web needs a host, and the host is read before the port. -/
theorem readAuthority_of_isSpecialScheme (hscheme : isSpecialScheme scheme = true)
    (text : List Char) :
    readAuthority scheme text =
      if hostPart (hostPortOf (authorityOf text)) = [] then .error .emptyHost
      else (Host.parseSpecial (hostPart (hostPortOf (authorityOf text)))).bind fun host =>
        (portOf scheme (hostPortOf (authorityOf text))).map (withAuthority scheme text host) := by
  have hempty : ∀ {l : List Char}, hostPart l ≠ [] → l ≠ [] := by
    rintro _ h rfl
    exact h rfl
  unfold readAuthority
  extract_lets special authority rest
  have hspecial : special = true := hscheme
  have hauthority : authorityOf text = authority := by
    simp only [authorityOf, authority, hspecial]
  clear_value special authority
  subst hspecial hauthority
  split
  next userInfo hostPort hsplit =>
  have hhostPort : hostPortOf (authorityOf text) = hostPort := by
    rw [hostPortOf]
    cases heq : splitLastAt (authorityOf text) <;> grind
  have huser : userOf (authorityOf text) = (userInfo.map readUserInfo).getD ("", "") := by
    rw [userOf]
    cases heq : splitLastAt (authorityOf text) <;> grind
  rw [hhostPort]
  by_cases hhost : hostPart hostPort = []
  · simp [hhost, bind, Except.bind, throw, throwThe, MonadExceptOf.throw]
  · have hne : hostPort ≠ [] := hempty hhost
    simp only [hhost, hne, bind, Except.bind, pure, Except.pure, List.isEmpty_iff, if_false,
      and_false, false_and, if_true, portOf, ← huser]
    cases Host.parseSpecial (hostPart hostPort) with
    | error => rfl
    | ok host =>
      by_cases hport : hostPort.drop (hostPart hostPort).length = []
      · simp only [hport, if_true]
        rfl
      · simp only [hport, if_false]
        cases readPort scheme ((hostPort.drop (hostPart hostPort).length).drop 1) with
        | error => rfl
        | ok port => rfl

theorem readAuthority_eq_ok_iff (hscheme : isSpecialScheme scheme = true) :
    readAuthority scheme text = .ok u ↔
      hostPart (hostPortOf (authorityOf text)) ≠ [] ∧
        ∃ host port, Host.parseSpecial (hostPart (hostPortOf (authorityOf text))) = .ok host ∧
          portOf scheme (hostPortOf (authorityOf text)) = .ok port ∧
          u = withAuthority scheme text host port := by
  rw [readAuthority_of_isSpecialScheme hscheme]
  by_cases hhost : hostPart (hostPortOf (authorityOf text)) = []
  · simp [hhost]
  · cases Host.parseSpecial (hostPart (hostPortOf (authorityOf text))) with
    | error e => simp [hhost, Except.bind]
    | ok host =>
      cases portOf scheme (hostPortOf (authorityOf text)) with
      | error e => simp [hhost, Except.bind, Except.map]
      | ok port => simp [hhost, Except.bind, Except.map, eq_comm]

theorem portOf_eq_error_iff {scheme' : String} {hostPort : List Char} {e : UrlError} :
    portOf scheme hostPort = .error e ↔ portOf scheme' hostPort = .error e := by
  unfold portOf readPort
  grind

/-- Whether there is an error in an authority of the web does not depend on the scheme. -/
theorem readAuthority_eq_error_iff {scheme' : String} {e : UrlError}
    (hscheme : isSpecialScheme scheme = true) (hscheme' : isSpecialScheme scheme' = true) :
    readAuthority scheme text = .error e ↔ readAuthority scheme' text = .error e := by
  rw [readAuthority_of_isSpecialScheme hscheme, readAuthority_of_isSpecialScheme hscheme']
  split
  · rfl
  · cases Host.parseSpecial (hostPart (hostPortOf (authorityOf text))) with
    | error => rfl
    | ok host =>
      have hport := @portOf_eq_error_iff scheme scheme' (hostPortOf (authorityOf text)) e
      simp only [Except.bind]
      cases hp : portOf scheme (hostPortOf (authorityOf text)) <;>
        cases hp' : portOf scheme' (hostPortOf (authorityOf text)) <;>
          simp_all [Except.map]

/-! ### Any scheme

The steps of `readAuthority` that can fail go on with one continuation: a guard throws or goes
on, and a choice reads one of two things and goes on with what it read.
-/

section Steps

variable {ε α β : Type} {p : Prop} [Decidable p] {e : ε} {b : β}

theorem exists_of_bind {x : Except ε α} {f : α → Except ε β} (h : x >>= f = .ok b) :
    ∃ a, f a = .ok b := by
  cases x with
  | error => cases h
  | ok a => exact ⟨a, h⟩

theorem exists_of_choice {x y : Except ε α} {f : α → Except ε β}
    (h : (if p then x >>= f else y >>= f) = .ok b) : ∃ a, f a = .ok b := by
  split at h
  · exact exists_of_bind h
  · exact exists_of_bind h

theorem of_guard {f : Unit → Except ε β} (h : (if p then throw e >>= f else f ()) = .ok b) :
    f () = .ok b := by
  split at h
  · cases h
  · exact h

end Steps

/-- Any URL with an authority has the scheme it was read with, a host, and a path of
segments. -/
theorem exists_of_readAuthority (h : readAuthority scheme text = .ok u) :
    u.scheme = scheme ∧ (∃ host, u.host = some host) ∧ ∃ parts, u.body = .segments parts := by
  unfold readAuthority at h
  extract_lets special authority rest at h
  clear_value special authority rest
  split at h
  next userInfo hostPort _ =>
  replace h := of_guard h
  split at h
  next username password _ =>
  replace h := of_guard h
  obtain ⟨host, h⟩ := exists_of_choice h
  replace h := of_guard h
  obtain ⟨port, h⟩ := exists_of_choice h
  replace h := of_guard h
  split at h
  next path query fragment _ =>
  cases h
  refine ⟨rfl, ⟨host, rfl⟩, ?_⟩
  match path with
  | [] => cases special <;> exact ⟨_, rfl⟩
  | c :: path =>
    by_cases hslash : endsSegment special c = true
    · exact ⟨_, if_pos hslash⟩
    · exact ⟨_, if_neg hslash⟩

end SiteSnapshot.Url
