import Mathlib.Data.List.Basic
import SiteSnapshot.Proofs.Crawl.WithinSite
import SiteSnapshot.Proofs.Url.Blobs

/-!
# Redirects of a site

The location of a redirect is resolved twice: against the URL of the request, which gives a
URL and from that a path of the site, and then against the page on the host that stands in for
the site. A URL of the site comes back as its path and query, and is requested as it was named
if no scheme and no second slash stand behind the base (`Site.redirects_lead_to_named_url`).
Any other URL comes back as its text, and is off the site unless it is on the stand-in's host.
-/

namespace SiteSnapshot

open Catalog Url

namespace Crawl

variable {current : String} {target : Url}

/-! ### Pages on the stand-in -/

/-- A path that is read as a page of the site, with one slash in front and no scheme behind it. -/
structure IsSitePath (path : String) : Prop where
  root : ∃ way, clean path = '/' :: way ∧ startsAtRoot way = false
  scheme : Site.schemeOf? path = none

theorem isSitePath_of_readsBack {s : String} {parts : List String} {query : Option String}
    (h : ReadsBack (s :: parts) query) (hempty : s = "" → parts = [])
    (hscheme : Site.schemeOf? (String.ofList (slashed (s :: parts) ++ queryText query)) = none) :
    IsSitePath (String.ofList (slashed (s :: parts) ++ queryText query)) where
  root := ⟨_, h.clean_slashed, h.startsAtRoot_eq_false hempty⟩
  scheme := hscheme

/-- A planned page of ordinary characters is read as a page of the site. -/
theorem isSitePath_of_isOrdinary {fixedPages units : List String} {page : String}
    (hfixed : PlainPaths fixedPages) (hunits : PlainPaths units)
    (hpage : page ∈ planPages fixedPages units)
    (h : ∀ c ∈ page.toList, Site.isOrdinary c = true) : IsSitePath page := by
  obtain ⟨s, rest, rfl, hreads, hempty, hscheme⟩ :=
    Site.exists_readsBack_of_isOrdinary hfixed hunits hpage h
  exact isSitePath_of_readsBack hreads hempty hscheme

/-- The page of a path on the stand-in. -/
theorem exists_join_anchor (h : IsSitePath current) :
    ∃ page, anchor.join current = .ok page ∧ page.scheme = "http" ∧
      page.host = anchor.host ∧ page.port = anchor.port ∧ page.isFixed = false := by
  obtain ⟨way, hclean, hroot⟩ := h.root
  exact ⟨_, join_of_root isWeb_http rfl hclean hroot, rfl, rfl, rfl, rfl⟩

/-- A path and query that are read back resolve to themselves on any page. -/
theorem resolveLocation_of_readsBack {s : String} {parts : List String} {query : Option String}
    (hcurrent : IsSitePath current) (h : ReadsBack (s :: parts) query)
    (hempty : s = "" → parts = []) :
    resolveLocation current (String.ofList (slashed (s :: parts) ++ queryText query)) =
      some (String.ofList (slashed (s :: parts) ++ queryText query)) := by
  obtain ⟨page, hpage, hscheme, hhost, hport, hfixed⟩ := exists_join_anchor hcurrent
  have hweb : IsWeb page.scheme := hscheme ▸ isWeb_http
  unfold resolveLocation
  rw [hpage]
  dsimp only
  rw [h.join_eq hempty hweb hfixed]
  dsimp only
  rw [if_pos, Option.some.injEq, ← String.toList_inj, toList_pathAndQuery rfl,
    String.toList_ofList]
  exact origin?_congr isWeb_http hscheme hhost hport

/-! ### Off the site -/

/-- A URL on the host that stands in for the site, or a blob from there. -/
def IsStandIn (u : Url) : Prop :=
  u.origin? = anchor.origin? ∨
    u.scheme = "http" ∧ u.port = none ∧
      ∃ host, u.host = some host ∧ host.text.toList.map Char.toLower = "site.invalid".toList

/-- A name that is read as the stand-in is that in small letters. -/
theorem toLower_of_parseSpecial {text : List Char} {host : Host}
    (hhost : Host.parseSpecial text = .ok host)
    (h : Host.parseSpecial host.text.toList = .ok (.domain "site.invalid")) :
    host.text.toList.map Char.toLower = "site.invalid".toList := by
  obtain ⟨-, hname | ⟨inner, htext, -⟩⟩ := Host.text_of_parseSpecial hhost
  · refine (Host.parseSpecial_eq_domain ?_ ?_ h).symm
    · exact fun c hc => Domain.toNat_lt_of_isNameChar (hname c hc)
    · exact fun hpercent => absurd (hname _ hpercent) (by decide)
  · -- what stands in brackets is an address or wrong
    rw [htext, Host.parseSpecial, List.head?_cons, if_pos rfl, Host.bracketed?] at h
    split at h
    · cases h
    · split at h <;> cases h

/-- **A URL that is not on the stand-in's host** leads off the site. -/
theorem resolveLocation_text_eq_none {request : Url} {location : String}
    (hweb : IsWeb request.scheme) (hrequest : Normal request)
    (htarget : request.join location = .ok target) (h : ¬IsStandIn target) (current : String) :
    resolveLocation current target.text = none := by
  unfold resolveLocation
  split
  · rfl
  · next page hpage =>
    split
    · rfl
    · next read hread =>
      refine if_neg fun horigin => h ?_
      by_cases htargetWeb : IsWeb target.scheme
      · have hnormal := normal_of_join (fun _ => hrequest) htarget htargetWeb
        obtain ⟨hscheme, hport, host, host', hhost, hreads, hreadHost⟩ :=
          host_port_of_resolve_text hnormal htargetWeb hread
        rw [origin?_anchor, origin?_of_isWeb (hscheme ▸ htargetWeb), hreadHost, hscheme,
          hport] at horigin
        simp only [Option.map_some, Option.some.injEq, Origin.mk.injEq] at horigin
        obtain ⟨hhttp, rfl, heighty⟩ := horigin
        have hdefault : defaultPort target.scheme = some 80 := by
          rw [hhttp]
          decide +kernel
        have hnone : target.port = none := by
          cases htargetPort : target.port with
          | none => rfl
          | some p =>
            rw [htargetPort, Option.some_or] at heighty
            exact absurd (hdefault.trans heighty.symm) (hnormal.port p htargetPort).2
        obtain ⟨host, source, hhost', hparse⟩ := hnormal.host
        obtain rfl := Option.some.inj (hhost.symm.trans hhost')
        exact .inr ⟨hhttp, hnone, _, hhost, toLower_of_parseSpecial hparse hreads⟩
      · obtain hscheme | ⟨more, hscheme⟩ := scheme_of_join hweb htarget
        · exact absurd (hscheme ▸ hweb) htargetWeb
        · obtain ⟨rest, htext⟩ := exists_clean_text hscheme
          have hreadScheme : read.scheme = target.scheme := scheme_of_resolve htext hread
          rw [origin?_anchor] at horigin
          obtain ⟨hreadWeb, -⟩ | ⟨hblob, -⟩ := origin?_eq_some horigin
          · exact absurd (hreadScheme ▸ hreadWeb) htargetWeb
          · have hsame : read.origin? = target.origin? :=
              origin?_of_resolve_blob_text (hreadScheme.symm.trans hblob ▸ hscheme) htarget hread
            exact .inl (hsame.symm.trans (horigin.trans origin?_anchor.symm))

/-- A location that is no URL leads off the site, unless it is relative to the stand-in alone. -/
theorem resolveLocation_eq_none_of_error {request : Url} {location : String} {e : UrlError}
    (hcurrent : IsSitePath current) (hweb : IsWeb request.scheme)
    (hfixed : request.isFixed = false)
    (hown : request.scheme ≠ "http" → ∀ more, splitScheme (clean location) = some ("http", more) →
      2 ≤ slashesOf more)
    (h : request.join location = .error e) : resolveLocation current location = none := by
  obtain ⟨page, hpage, hscheme, -, -, hpageFixed⟩ := exists_join_anchor hcurrent
  have hpageWeb : IsWeb page.scheme := hscheme ▸ isWeb_http
  have hjoin : page.join location = .error e := by
    refine join_eq_error hweb hpageWeb hfixed hpageFixed (fun hother => ?_) h
    rw [hscheme] at hother ⊢
    exact hown (Ne.symm hother)
  unfold resolveLocation
  rw [hpage]
  dsimp only
  rw [hjoin]

end Crawl

namespace Site

variable {text current location : String} {site : Site} {request target : Url} {dir : List String}

/-! ### Paths of the site -/

/-- The URL is one of the site, or its base without the slash at the end. -/
def Includes (site : Site) (url : Url) : Prop :=
  url.origin? = site.base.origin? ∧
    (url.path ++ "/" = site.base.path ∨ site.base.path.toList <+: url.path.toList)

instance (site : Site) (url : Url) : Decidable (site.Includes url) :=
  inferInstanceAs (Decidable (_ ∧ _))

theorem toList_basePath (hbody : site.base.body = .segments (dir ++ [""])) :
    site.base.path.toList = slashed dir ++ ['/'] := by
  rw [toList_path hbody, slashed_append]
  rfl

/-- The base path has one slash at its end, and without it none. -/
theorem trimEndSlashes_basePath (hbody : site.base.body = .segments (dir ++ [""]))
    (hslash : ¬['/', '/'] <:+ site.base.path.toList) :
    trimEndSlashes site.base.path.toList = slashed dir := by
  rw [toList_basePath hbody] at hslash ⊢
  rw [trimEndSlashes, List.reverse_append, List.reverse_singleton, List.singleton_append,
    List.dropWhile_cons_of_pos (by decide)]
  cases hdir : (slashed dir).reverse with
  | nil => simpa using hdir.symm
  | cons c rest =>
    have heq : slashed dir = rest.reverse ++ [c] := by simpa using congrArg List.reverse hdir
    have hc : c ≠ '/' := by
      rintro rfl
      exact hslash ⟨rest.reverse, by simp [heq]⟩
    rw [List.dropWhile_cons_of_neg (by simpa using hc), ← hdir, List.reverse_reverse]

/-- What follows the base path, which may lack its slash. -/
theorem below?_eq_some_iff (hbody : site.base.body = .segments (dir ++ [""]))
    (hslash : ¬['/', '/'] <:+ site.base.path.toList) {path rest : String} :
    site.below? path = some rest ↔
      (path ++ "/" = site.base.path ∧ rest = "") ∨
        path.toList = site.base.path.toList ++ rest.toList := by
  have hroot : path ++ "/" = site.base.path ↔ path.toList = slashed dir := by
    rw [← String.toList_inj, String.toList_append, toList_basePath hbody]
    exact List.append_left_inj ['/']
  rw [below?, trimEndSlashes_basePath hbody hslash, hroot]
  split
  · next hpath =>
    have hlonger : slashed dir ≠ site.base.path.toList ++ rest.toList := by
      intro h
      have := congrArg List.length h
      rw [toList_basePath hbody] at this
      simp at this
    rw [hpath, Option.some.injEq]
    simp [hlonger, eq_comm]
  · next hpath =>
    simp only [hpath, false_and, false_or]
    split
    · next hprefix =>
      obtain ⟨more, hmore⟩ := List.isPrefixOf_iff_prefix.mp hprefix
      rw [← hmore, List.drop_left, List.append_cancel_left_eq, Option.some.injEq,
        ← String.toList_inj, String.toList_ofList]
    · next hprefix =>
      refine iff_of_false (by simp) fun h => hprefix ?_
      exact List.isPrefixOf_iff_prefix.mpr ⟨_, h.symm⟩

/-- A URL that is none of the site comes back as its text. -/
theorem pathOf_of_not_includes (hbody : site.base.body = .segments (dir ++ [""]))
    (hslash : ¬['/', '/'] <:+ site.base.path.toList)
    (htarget : request.join location = .ok target) (h : ¬site.Includes target) :
    site.pathOf request location = target.text := by
  unfold pathOf
  rw [htarget]
  dsimp only
  split
  · next rest hrest =>
    refine if_neg fun horigin => h ?_
    simp only [Bool.and_eq_true, beq_iff_eq] at horigin
    obtain ⟨hroot, -⟩ | hpath := (below?_eq_some_iff hbody hslash).mp hrest
    · exact ⟨horigin.2, .inl hroot⟩
    · exact ⟨horigin.2, .inr ⟨_, hpath.symm⟩⟩
  · rfl

theorem isSome_origin?_base (hbase : Normal site.base) (hweb : IsWeb site.base.scheme) :
    site.base.origin?.isSome = true := by
  obtain ⟨host, -, hhost, -⟩ := hbase.host
  rw [origin?_of_isWeb hweb, hhost]
  rfl

/-- A URL of the site is one of the web, as the path of a blob is a URL itself. -/
theorem isWeb_of_includes (hbase : Normal site.base) (hweb : IsWeb site.base.scheme)
    (hbody : site.base.body = .segments (dir ++ [""])) (h : site.Includes target) :
    IsWeb target.scheme := by
  obtain ⟨o, ho⟩ := Option.isSome_iff_exists.mp (isSome_origin?_base hbase hweb)
  obtain ⟨htarget, -⟩ | ⟨-, inner, hinner⟩ := origin?_eq_some (h.1.trans ho)
  · exact htarget
  · obtain ⟨rest, hbasePath⟩ : ∃ rest, site.base.path.toList = '/' :: rest := by
      rw [toList_basePath hbody]
      cases dir <;> simp
    have hslash : target.path = "" ∨ ∃ rest, target.path.toList = '/' :: rest := by
      obtain hroot | ⟨more, hmore⟩ := h.2
      · rw [← hroot, String.toList_append] at hbasePath
        cases hpath : target.path.toList with
        | nil => exact .inl (String.toList_eq_nil_iff.mp hpath)
        | cons c path =>
          rw [hpath, List.cons_append, List.cons.injEq] at hbasePath
          exact .inr ⟨path, by rw [hbasePath.1]⟩
      · exact .inr ⟨rest ++ more, by rw [← hmore, hbasePath, List.cons_append]⟩
    obtain hempty | ⟨rest, hrest⟩ := hslash
    · rw [hempty] at hinner
      cases hinner
    · exact absurd hinner (parse_ne_ok_of_slash hrest inner)

/-- The path of a URL of the site is what follows the base, with the query. -/
theorem exists_pathOf_of_includes (hbase : Normal site.base) (hweb : IsWeb site.base.scheme)
    (hbody : site.base.body = .segments (dir ++ [""]))
    (hslash : ¬['/', '/'] <:+ site.base.path.toList) (htarget : request.join location = .ok target)
    (hnormal : Normal target) (h : site.Includes target) :
    ∃ s more,
      site.pathOf request location = String.ofList (slashed (s :: more) ++ queryText target.query) ∧
        ReadsBack (s :: more) target.query ∧
        (target.path ++ "/" = site.base.path ∧ s = "" ∧ more = [] ∨
          target.body = .segments (dir ++ s :: more)) := by
  have hpath : ∀ rest, site.below? target.path = some rest →
      site.pathOf request location =
        String.ofList ('/' :: rest.toList ++ queryText target.query) := by
    intro rest hrest
    have horigin : (target.origin?.isSome && target.origin? == site.base.origin?) = true := by
      rw [h.1, isSome_origin?_base hbase hweb, Bool.true_and, beq_iff_eq]
    rw [← String.toList_inj, String.toList_ofList, pathOf, htarget]
    dsimp only
    rw [hrest]
    dsimp only
    rw [if_pos horigin]
    cases target.query <;> simp [queryText]
  obtain hroot | hbelow := h.2
  · have hrest : site.below? target.path = some "" :=
      (below?_eq_some_iff hbody hslash).mpr (.inl ⟨hroot, rfl⟩)
    have hreads : ReadsBack [""] target.query := ⟨by simpa using isSettled_empty, hnormal.query⟩
    exact ⟨"", [], hpath "" hrest, hreads, .inl ⟨hroot, rfl, rfl⟩⟩
  · obtain ⟨rest, hrest⟩ := hbelow
    obtain ⟨parts, hparts, -, hsettled⟩ := hnormal.parts
    obtain ⟨baseParts, hbaseParts, -, hbaseSettled⟩ := hbase.parts
    obtain rfl : dir ++ [""] = baseParts := UrlBody.segments.inj (hbody.symm.trans hbaseParts)
    have htext : slashed parts = slashed dir ++ '/' :: rest := by
      rw [← toList_path hparts, ← hrest, toList_basePath hbody, List.append_assoc,
        List.singleton_append]
    obtain ⟨s, more, rfl, rfl⟩ := exists_of_slashed_eq (fun t ht => (hsettled t ht).written)
      (fun t ht => (hbaseSettled t (List.mem_append_left _ ht)).written) htext
    have hbelow : site.below? target.path = some (String.ofList (s.toList ++ slashed more)) :=
      (below?_eq_some_iff hbody hslash).mpr (.inr (by rw [String.toList_ofList, hrest]))
    have hreads : ReadsBack (s :: more) target.query :=
      ⟨fun t ht => hsettled t (List.mem_append_right _ ht), hnormal.query⟩
    refine ⟨s, more, ?_, hreads, .inr hparts⟩
    rw [hpath _ hbelow, String.toList_ofList, slashed_cons]

/-- A path that is read back is requested below the base. -/
theorem urlFor_of_readsBack {s : String} {more : List String} {query : Option String}
    (hweb : IsWeb site.base.scheme) (hbody : site.base.body = .segments (dir ++ [""]))
    (h : ReadsBack (s :: more) query) (hempty : s = "" → more = [])
    (hscheme : schemeOf? (String.ofList (slashed (s :: more) ++ queryText query)) = none) :
    site.urlFor (String.ofList (slashed (s :: more) ++ queryText query)) =
      .ok { site.base with
        body := .segments (dir ++ s :: more)
        query := if s = "" ∧ more = [] then query.or site.base.query else query
        fragment := none } := by
  have hway := wayOf_of_readsBack h hempty
  rw [schemeOf?_eq_none_iff, hway] at hscheme
  have hwayFrom : wayFrom? site.base.scheme
      (String.ofList (s.toList ++ slashed more ++ queryText query)) =
        some (s.toList ++ slashed more ++ queryText query) := by
    rw [wayFrom?, hscheme, h.clean_eq]
  have hfixed : site.base.isFixed = false := by rw [isFixed, hbody]
  have hdirectory : (directoryOf site.base).reverse = dir := by simp [directoryOf, hbody]
  rw [urlFor_eq, hway, join_of_wayFrom? hweb hfixed hwayFrom (h.startsAtRoot_eq_false hempty),
    h.below_eq hweb, hdirectory, hbody]
  split
  · next hroot => rw [hroot.1, hroot.2]
  · rfl

/-- A URL of the web that a path of the site is requested at. -/
theorem web_of_urlFor (hbase : Normal site.base) (hweb : IsWeb site.base.scheme)
    (hscheme : schemeOf? current = none) (hrequest : site.urlFor current = .ok request) :
    request.scheme = site.base.scheme ∧ Normal request := by
  rw [schemeOf?_eq_none_iff] at hscheme
  rw [urlFor_eq] at hrequest
  have hsame : request.scheme = site.base.scheme := by
    obtain h | ⟨more, hmore⟩ := scheme_of_join hweb hrequest
    · exact h
    · rw [hscheme] at hmore
      cases hmore
  exact ⟨hsame, normal_of_join (fun _ => hbase) hrequest (hsame ▸ hweb)⟩

/-- A redirect to the location ends a visit as one that leads off the site. -/
def EndsOffSite (site : Site) (current : String) (request : Url) (location : String) : Prop :=
  Crawl.resolveLocation current (site.pathOf request location) = none ∧
    ∀ (web : Web) (r : WebResponse), web "GET" request = .ok r → (r.status = 301 ∨ r.status = 302) →
      r.header? "location" = some location → ∀ start left,
        (Crawl.follow (site.router web) start (left + 1) current).result =
          .error (.offSite start (site.pathOf request location))

theorem endsOffSite (hrequest : site.urlFor current = .ok request)
    (hne : site.pathOf request location ≠ "")
    (hleaves : Crawl.resolveLocation current (site.pathOf request location) = none) :
    site.EndsOffSite current request location := by
  refine ⟨hleaves, fun web r hweb hstatus hlocation start left => ?_⟩
  have hredirects : Crawl.RedirectsTo (site.router web) current (site.pathOf request location) := by
    refine ⟨site.response request r, ?_, hstatus, ?_, hne⟩
    · simp only [router, hrequest, hweb]
    · simp only [response, hlocation, Option.map_some]
  rw [Crawl.follow_of_concludes (.stop (.offSite hredirects left.succ_pos hleaves))]

theorem toList_path_of_body {s : String} {more : List String}
    (hbody : site.base.body = .segments (dir ++ [""]))
    (htarget : target.body = .segments (dir ++ s :: more)) :
    target.path.toList = site.base.path.toList ++ (s.toList ++ slashed more) := by
  rw [toList_path htarget, toList_basePath hbody]
  simp

/-- What is requested for a URL of the site, once its path is resolved. -/
theorem urlFor_of_includes {s : String} {more : List String} (hbase : Normal site.base)
    (hweb : IsWeb site.base.scheme) (hbody : site.base.body = .segments (dir ++ [""]))
    (htargetWeb : IsWeb target.scheme) (hnormal : Normal target) (h : site.Includes target)
    (hreads : ReadsBack (s :: more) target.query) (hempty : s = "" → more = [])
    (hparts : target.path ++ "/" = site.base.path ∧ s = "" ∧ more = [] ∨
      target.body = .segments (dir ++ s :: more))
    (hscheme : schemeOf? (String.ofList (slashed (s :: more) ++ queryText target.query)) = none) :
    ((target.path ++ "/" = site.base.path ∨ target.path = site.base.path) →
      site.urlFor (String.ofList (slashed (s :: more) ++ queryText target.query)) =
        .ok { site.base with query := target.query.or site.base.query, fragment := none }) ∧
    (target.path ++ "/" ≠ site.base.path → target.path ≠ site.base.path →
      site.urlFor (String.ofList (slashed (s :: more) ++ queryText target.query)) =
        .ok { target with
          username := site.base.username, password := site.base.password, fragment := none }) := by
  have hurl := urlFor_of_readsBack hweb hbody hreads hempty hscheme
  constructor
  · intro hroot
    have hown : s = "" ∧ more = [] := by
      obtain ⟨-, hown⟩ | hbelow := hparts
      · exact hown
      · have hpath := toList_path_of_body hbody hbelow
        obtain hshort | hequal := hroot
        · have := congrArg (·.toList.length) hshort
          simp [hpath] at this
        · rw [hequal, List.self_eq_append_right, List.append_eq_nil_iff] at hpath
          refine ⟨String.toList_eq_nil_iff.mp hpath.1, ?_⟩
          cases more with
          | nil => rfl
          | cons => simp at hpath
    rw [hurl, if_pos hown, hown.1, hown.2, ← hbody]
  · intro hnotRoot hnotBase
    have hbelow : target.body = .segments (dir ++ s :: more) := by
      obtain ⟨hroot, -⟩ | hbelow := hparts
      · exact absurd hroot hnotRoot
      · exact hbelow
    have hother : ¬(s = "" ∧ more = []) := by
      rintro ⟨rfl, rfl⟩
      exact hnotBase (String.toList_inj.mp (by simp [toList_path_of_body hbody hbelow]))
    obtain ⟨hscheme, hhost, hport⟩ := hnormal.eq_of_origin?_eq hbase htargetWeb hweb h.1
    rw [hurl, if_neg hother, ← hbelow, hscheme, hhost, hport]

/-- Behind the base stands no empty segment that others follow, if no second slash does. -/
theorem eq_nil_of_not_double_slash {s : String} {more : List String}
    (hbody : site.base.body = .segments (dir ++ [""]))
    (hdouble : ¬site.base.path.toList ++ ['/'] <+: target.path.toList)
    (hparts : target.path ++ "/" = site.base.path ∧ s = "" ∧ more = [] ∨
      target.body = .segments (dir ++ s :: more)) (hempty : s = "") : more = [] := by
  obtain ⟨-, -, hnil⟩ | hbelow := hparts
  · exact hnil
  · cases more with
    | nil => rfl
    | cons t more =>
      refine absurd ⟨t.toList ++ slashed more, ?_⟩ hdouble
      rw [toList_path_of_body hbody hbelow, hempty]
      simp

theorem endsOffSite_of_not_includes (hweb : IsWeb request.scheme) (hnormal : Normal request)
    (hbody : site.base.body = .segments (dir ++ [""]))
    (hslash : ¬['/', '/'] <:+ site.base.path.toList)
    (hrequest : site.urlFor current = .ok request) (htarget : request.join location = .ok target)
    (hnot : ¬site.Includes target) (hstandIn : ¬Crawl.IsStandIn target) :
    site.EndsOffSite current request location := by
  have hpath := pathOf_of_not_includes hbody hslash htarget hnot
  refine endsOffSite hrequest ?_ ?_
  · rw [hpath]
    intro hempty
    have hcolon : target.text.toList = [] := by rw [hempty]; rfl
    simp [Url.text] at hcolon
  · rw [hpath]
    exact Crawl.resolveLocation_text_eq_none hweb hnormal htarget hstandIn current

theorem endsOffSite_of_error {e : UrlError} (hweb : IsWeb request.scheme) (hnormal : Normal request)
    (hcurrent : Crawl.IsSitePath current) (hrequest : site.urlFor current = .ok request)
    (herror : request.join location = .error e)
    (hown : request.scheme ≠ "http" → ∀ more, splitScheme (clean location) = some ("http", more) →
      2 ≤ slashesOf more) : site.EndsOffSite current request location := by
  have hpath : site.pathOf request location = location := by
    rw [pathOf, herror]
  have hfixed := hnormal.isFixed_eq_false
  refine endsOffSite hrequest ?_ ?_
  · rw [hpath]
    rintro rfl
    -- no location at all is the URL of the request itself
    have hself : wayFrom? request.scheme "" = some [] := rfl
    rw [join_of_wayFrom? hweb hfixed hself rfl] at herror
    cases herror
  · rw [hpath]
    exact Crawl.resolveLocation_eq_none_of_error hcurrent hweb hfixed hown herror

/-- **Redirects inside a site lead to the URL that was named.** A location at a URL of the site,
behind whose base stands no second slash, resolves to a path. If no scheme stands behind the base
either, that is a path of the site again, and the URL that is requested for it is the one that was
named, with the user of the base and without fragment. For the base, with its slash or without,
the base is requested, with its own query if none was named. A location at any other URL, or at
none, ends the visit as off the site, unless it is on the stand-in's host or relative to the
stand-in alone. -/
theorem redirects_lead_to_named_url (hsite : ofText text = .ok site)
    (hscheme : site.base.scheme = "http" ∨ site.base.scheme = "https")
    (hslash : ¬['/', '/'] <:+ site.base.path.toList) (hcurrent : Crawl.IsSitePath current)
    (hrequest : site.urlFor current = .ok request) (location : String) :
    (∀ target, request.join location = .ok target → site.Includes target →
      ¬site.base.path.toList ++ ['/'] <+: target.path.toList →
      ∃ path, Crawl.resolveLocation current (site.pathOf request location) = some path ∧
        (schemeOf? path = none → Crawl.IsSitePath path ∧
          ((target.path ++ "/" = site.base.path ∨ target.path = site.base.path) →
            site.urlFor path =
              .ok { site.base with query := target.query.or site.base.query, fragment := none }) ∧
          (target.path ++ "/" ≠ site.base.path → target.path ≠ site.base.path →
            site.urlFor path =
              .ok { target with
                username := site.base.username, password := site.base.password
                fragment := none }))) ∧
    (∀ target, request.join location = .ok target → ¬site.Includes target →
      ¬Crawl.IsStandIn target → site.EndsOffSite current request location) ∧
    ∀ e, request.join location = .error e →
      (site.base.scheme = "https" → ∀ more, splitScheme (clean location) = some ("http", more) →
        2 ≤ slashesOf more) → site.EndsOffSite current request location := by
  have hweb : IsWeb site.base.scheme := isWeb_of_http_or_https hscheme
  obtain ⟨hbase, dir, hbody⟩ := exists_of_ofText hsite hweb
  obtain ⟨hsame, hnormal⟩ := web_of_urlFor hbase hweb hcurrent.scheme hrequest
  have hrequestWeb : IsWeb request.scheme := hsame ▸ hweb
  refine ⟨fun target htarget hincludes hdouble => ?_, fun target htarget hnot hstandIn => ?_,
    fun e herror hown => ?_⟩
  · have htargetWeb := isWeb_of_includes hbase hweb hbody hincludes
    have htargetNormal := normal_of_join (fun _ => hnormal) htarget htargetWeb
    obtain ⟨s, more, hpath, hreads, hparts⟩ :=
      exists_pathOf_of_includes hbase hweb hbody hslash htarget htargetNormal hincludes
    have hempty : s = "" → more = [] := eq_nil_of_not_double_slash hbody hdouble hparts
    rw [hpath]
    refine ⟨_, Crawl.resolveLocation_of_readsBack hcurrent hreads hempty, fun hnone => ⟨?_, ?_⟩⟩
    · exact Crawl.isSitePath_of_readsBack hreads hempty hnone
    · exact urlFor_of_includes hbase hweb hbody htargetWeb htargetNormal hincludes hreads hempty
        hparts hnone
  · exact endsOffSite_of_not_includes hrequestWeb hnormal hbody hslash hrequest htarget hnot
      hstandIn
  · refine endsOffSite_of_error hrequestWeb hnormal hcurrent hrequest herror fun hother => ?_
    exact hown (hscheme.resolve_left fun hhttp => hother (hsame.trans hhttp))

/-! ### Redirects of a page on the machine itself -/

/-- The page at `http://[::1]:8080/docs/a`. -/
def loopbackPage : Url :=
  { loopback.base with body := .segments ["docs", "a"] }

/-- The page redirects to another page, to another host, and to no URL. -/
theorem redirects_lead_to_named_url_loopback :
    (∃ path, Crawl.resolveLocation "/a" (loopback.pathOf loopbackPage "/docs/b?q#top") = some path ∧
      loopback.urlFor path =
        .ok { loopbackPage with body := .segments ["docs", "b"], query := some "q" }) ∧
    loopback.EndsOffSite "/a" loopbackPage "http://[::2]/x" ∧
    loopback.EndsOffSite "/a" loopbackPage "http://[" := by
  have hslash : ¬['/', '/'] <:+ loopback.base.path.toList := by decide +kernel
  have hcurrent : Crawl.IsSitePath "/a" := ⟨⟨['a'], by decide +kernel, rfl⟩, by decide +kernel⟩
  have hrequest : loopback.urlFor "/a" = .ok loopbackPage := by decide +kernel
  have hall := redirects_lead_to_named_url ofText_loopback (.inl rfl) hslash hcurrent hrequest
  refine ⟨?_, ?_, ?_⟩
  · obtain ⟨hinside, -, -⟩ := hall "/docs/b?q#top"
    have hpath : Crawl.resolveLocation "/a" (loopback.pathOf loopbackPage "/docs/b?q#top") =
        some "/b?q" := by
      decide +kernel
    obtain ⟨path, hresolves, hnamed⟩ := hinside
      { loopbackPage with
        body := .segments ["docs", "b"], query := some "q", fragment := some "top" }
      (by decide +kernel) (by decide +kernel) (by decide +kernel)
    obtain rfl := Option.some.inj (hresolves.symm.trans hpath)
    obtain ⟨-, -, hurl⟩ := hnamed (by decide +kernel)
    exact ⟨_, hresolves, hurl (by decide +kernel) (by decide +kernel)⟩
  · obtain ⟨-, houtside, -⟩ := hall "http://[::2]/x"
    refine houtside
      { scheme := "http", host := some (.ipv6 [0, 0, 0, 0, 0, 0, 0, 2]), body := .segments ["x"] }
      (by decide +kernel) (by decide +kernel) ?_
    rintro (horigin | ⟨-, -, host, hhost, hlower⟩)
    · revert horigin
      decide +kernel
    · cases hhost
      revert hlower
      decide +kernel
  · obtain ⟨-, -, herror⟩ := hall "http://["
    exact herror .ipv6 (by decide +kernel) (fun hhttps => absurd hhttps (by decide))

/-- A location on the host that stands in for the site is read in one way at any URL. -/
theorem join_stand_in (b : Url) :
    b.join "http://site.invalid/x" = .ok { Crawl.anchor with body := .segments ["x"] } := by
  have hscheme : splitScheme (clean "http://site.invalid/x") =
      some ("http", "//site.invalid/x".toList) := by
    decide +kernel
  have hslashes : slashesOf "//site.invalid/x".toList = 2 := by decide +kernel
  have hhost : hostPart (hostPortOf (authorityOf ("//site.invalid/x".toList.drop 2))) =
      "site.invalid".toList := by
    decide +kernel
  rw [join, resolve_of_scheme hscheme, readWithScheme_of_authority isWeb_http (by omega), hslashes,
    readAuthority_eq_ok_iff isWeb_http.1, hhost]
  exact ⟨by decide, .domain "site.invalid", none, Crawl.parseSpecial_anchor, by decide +kernel,
    by decide +kernel⟩

/-- The URL of a page behind two slashes is not followed, the colon in a name is read as the end
of a scheme, and the host that stands in for the site is taken for the site. -/
theorem not_resolved_as_named :
    (∃ target, loopbackPage.join "/docs//" = .ok target ∧ loopback.Includes target ∧
      Crawl.resolveLocation "/a" (loopback.pathOf loopbackPage "/docs//") = none) ∧
    (∃ target path, loopbackPage.join "/docs/a:b" = .ok target ∧ loopback.Includes target ∧
      Crawl.resolveLocation "/a" (loopback.pathOf loopbackPage "/docs/a:b") = some path ∧
      loopback.urlFor path = .ok { scheme := "a", body := .fixed "b" }) ∧
    ∃ target, loopbackPage.join "http://site.invalid/x" = .ok target ∧
      ¬loopback.Includes target ∧
      Crawl.resolveLocation "/a" (loopback.pathOf loopbackPage "http://site.invalid/x") =
        some "/x" := by
  refine ⟨⟨{ loopbackPage with body := .segments ["docs", "", ""] }, ?_, ?_, ?_⟩,
    ⟨{ loopbackPage with body := .segments ["docs", "a:b"] }, "/a:b", ?_, ?_, ?_, ?_⟩,
    ⟨_, join_stand_in loopbackPage, ?_, ?_⟩⟩
  · decide +kernel
  · decide +kernel
  · decide +kernel
  · decide +kernel
  · decide +kernel
  · decide +kernel
  · decide +kernel
  · decide +kernel
  · have htext : loopback.pathOf loopbackPage "http://site.invalid/x" =
        "http://site.invalid/x" := by
      rw [pathOf, join_stand_in]
      decide +kernel
    have hpage : Crawl.anchor.join "/a" = .ok { Crawl.anchor with body := .segments ["a"] } := by
      decide +kernel
    rw [htext, Crawl.resolveLocation, hpage]
    dsimp only
    rw [join_stand_in]
    decide +kernel

end Site

end SiteSnapshot
