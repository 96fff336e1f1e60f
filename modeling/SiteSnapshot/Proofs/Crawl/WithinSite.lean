import Mathlib.Data.List.Basic
import SiteSnapshot.Crawl.Site
import SiteSnapshot.Proofs.Catalog.PlannedPages
import SiteSnapshot.Proofs.Crawl.RedirectChain
import SiteSnapshot.Proofs.Url.Descent
import SiteSnapshot.Proofs.Url.Hosts

/-!
# Requests within a site

A site **holds** the URLs of its origin whose path starts with that of its base
(`Site.Holds`). A path of the site is resolved against the base without the slashes in front
of it, so it leads to such a URL if it descends from there, and to none if it starts with
another scheme than that of the base (`Site.exists_urlFor_of_descends`,
`Site.not_holds_of_scheme`).

Redirects lead from page to page through the paths of other URLs, which are in normal form.
So a path that a redirect gave leads to the site again unless it starts with a scheme, and
`Site.requests_stay_within` says what holds of all requests for a planned page.
-/

namespace SiteSnapshot

open Catalog Url

namespace Crawl

variable {router : Router} {start current location path : String} {k : ℕ}

/-! ### Paths that redirects lead to -/

theorem parseSpecial_anchor :
    Host.parseSpecial "site.invalid".toList = .ok (.domain "site.invalid") := by
  have hname : ("site.invalid".toList.all fun c => Domain.isNameChar c && !c.isUpper) = true := by
    decide
  rw [Host.parseSpecial_of_isNameChar (fun c hc => by simpa using List.all_eq_true.mp hname c hc)
    (by decide) (by decide) (by decide), String.ofList_toList]

theorem normal_anchor : Normal anchor where
  username := by simp [anchor]
  password := by simp [anchor]
  host := ⟨_, _, rfl, parseSpecial_anchor⟩
  port := by simp [anchor]
  parts := ⟨[""], rfl, by simp, by simpa using isSettled_empty⟩
  query := by simp [anchor]
  fragment := by simp [anchor]

theorem origin?_anchor : anchor.origin? = some ⟨"http", .domain "site.invalid", some 80⟩ := by
  rw [origin?_of_isWeb isWeb_http]
  decide +kernel

/-- A path that a location resolves to is that of a URL of the stand-in's origin. -/
theorem exists_of_resolveLocation (h : resolveLocation current location = some path) :
    ∃ target, target.origin? = anchor.origin? ∧ path = target.pathAndQuery ∧
      (IsWeb target.scheme → Normal target) := by
  unfold resolveLocation at h
  split at h
  · cases h
  · next page hpage =>
    split at h
    · cases h
    · next target htarget =>
      split at h
      · next horigin =>
        cases h
        have hnormal : IsWeb page.scheme → Normal page :=
          normal_of_join (fun _ => normal_anchor) hpage
        exact ⟨target, horigin, rfl, normal_of_join hnormal htarget⟩
      · cases h

end Crawl

namespace Site

variable {text path page : String} {site : Site} {url : Url} {web : Web}
  {fixedPages units : List String}

/-! ### Paths and URLs -/

/-- A path as it is resolved against the base: without the slashes in front. -/
def wayOf (path : String) : String :=
  String.ofList (path.toList.dropWhile (· == '/'))

theorem urlFor_eq (site : Site) (path : String) : site.urlFor path = site.base.join (wayOf path) :=
  rfl

/-- The scheme that a path starts with as it is resolved. -/
def schemeOf? (path : String) : Option String :=
  (splitScheme (clean (wayOf path))).map (·.1)

theorem wayOf_of_readsBack {s : String} {parts : List String} {query : Option String}
    (h : ReadsBack (s :: parts) query) (hempty : s = "" → parts = []) :
    wayOf (String.ofList (slashed (s :: parts) ++ queryText query)) =
      String.ofList (s.toList ++ slashed parts ++ queryText query) := by
  rw [wayOf, String.toList_ofList, h.dropWhile_slashed hempty]

/-- A path that leads below the base as it is resolved: it has no scheme but that of the
base, does not start at a root, and steps up nowhere above its start. -/
def Descends (site : Site) (path : String) : Prop :=
  descends site.base.scheme (wayOf path) = true

instance (site : Site) (path : String) : Decidable (site.Descends path) :=
  inferInstanceAs (Decidable (_ = _))

theorem schemeOf?_eq_none_iff : schemeOf? path = none ↔ splitScheme (clean (wayOf path)) = none :=
  Option.map_eq_none_iff

/-- The URL has the origin of the site, and its path starts with that of the base. -/
def Holds (site : Site) (url : Url) : Prop :=
  url.origin? = site.base.origin? ∧ site.base.path.toList <+: url.path.toList

/-- The base of a site of the web is in normal form, and its path ends with a slash. -/
theorem exists_of_ofText (hsite : ofText text = .ok site) (hweb : IsWeb site.base.scheme) :
    Normal site.base ∧ ∃ dir, site.base.body = .segments (dir ++ [""]) := by
  unfold ofText at hsite
  split at hsite
  · cases hsite
  · next url hurl =>
    split at hsite
    · cases hsite
    · next parts hbody =>
      cases hsite
      have hnormal := normal_of_parse hurl hweb
      obtain ⟨parts', hbody', hne, hsettled⟩ := hnormal.parts
      rw [hbody] at hbody'
      cases hbody'
      have hslash : ∃ dir, withFinalSlash parts = dir ++ [""] ∧ ∀ s ∈ dir, s ∈ parts := by
        unfold withFinalSlash
        split
        · next hlast =>
          obtain ⟨dir, rfl⟩ := List.getLast?_eq_some_iff.mp hlast
          exact ⟨dir, rfl, fun s hs => List.mem_append_left _ hs⟩
        · exact ⟨parts, rfl, fun s hs => hs⟩
      obtain ⟨dir, hdir, hmem⟩ := hslash
      refine ⟨⟨hnormal.username, hnormal.password, hnormal.host, hnormal.port,
        ⟨dir ++ [""], by rw [hdir], by simp, ?_⟩, hnormal.query, hnormal.fragment⟩, dir, ?_⟩
      · intro s hs
        obtain hs | hs := List.mem_append.mp hs
        · exact hsettled s (hmem s hs)
        · obtain rfl := List.mem_singleton.mp hs
          exact isSettled_empty
      · rw [hdir]

theorem holds_of_body {dir more : List String} {query fragment : Option String}
    (hweb : IsWeb site.base.scheme) (hbody : site.base.body = .segments (dir ++ [""]))
    (hne : more ≠ []) :
    site.Holds { site.base with body := .segments (dir ++ more), query, fragment } := by
  constructor
  · exact origin?_congr hweb rfl rfl rfl
  · rw [toList_path hbody, toList_path rfl]
    obtain ⟨s, rest, rfl⟩ := List.exists_cons_of_ne_nil hne
    simp

/-- A path that descends leads to a URL of the site. -/
theorem exists_urlFor_of_descends (hsite : ofText text = .ok site)
    (hweb : IsWeb site.base.scheme) (h : site.Descends path) :
    ∃ url, site.urlFor path = .ok url ∧ site.Holds url := by
  obtain ⟨-, dir, hbody⟩ := exists_of_ofText hsite hweb
  obtain ⟨more, query, fragment, hne, hjoin⟩ := exists_join_of_descends hweb hbody h
  exact ⟨_, hjoin, holds_of_body hweb hbody hne⟩

/-- A path that starts with another scheme than that of the base leads to no URL of the
site. -/
theorem not_holds_of_scheme {scheme : String} (hsite : ofText text = .ok site)
    (hweb : IsWeb site.base.scheme) (hscheme : schemeOf? path = some scheme)
    (hother : scheme ≠ site.base.scheme) (hurl : site.urlFor path = .ok url) :
    ¬site.Holds url := by
  rintro ⟨horigin, hpath⟩
  obtain ⟨⟨own, rest⟩, hown, rfl⟩ := Option.map_eq_some_iff.mp hscheme
  rw [urlFor_eq, join] at hurl
  have hurlScheme : url.scheme = own := scheme_of_resolve hown hurl
  obtain ⟨hnormal, dir, hbody⟩ := exists_of_ofText hsite hweb
  obtain ⟨host, -, hhost, -⟩ := hnormal.host
  rw [origin?_of_isWeb hweb, hhost, Option.map_some] at horigin
  obtain ⟨-, hsame⟩ | ⟨-, inner, hinner⟩ := origin?_eq_some horigin
  · exact hother (hurlScheme.symm.trans hsame.symm)
  · -- the path of a blob is a URL, and does not start with a slash as that of the base does
    rw [toList_path hbody] at hpath
    obtain ⟨rest, hslash⟩ : ∃ rest, url.path.toList = '/' :: rest := by
      obtain ⟨more, hmore⟩ := hpath
      rw [← hmore]
      cases dir <;> simp
    exact parse_ne_ok_of_slash hslash inner hinner

/-! ### Paths that redirects give -/

/-- The path and query of a URL of the web descend, unless they start with a scheme. -/
theorem descends_pathAndQuery (hnormal : Normal url)
    (hscheme : schemeOf? url.pathAndQuery = none) : site.Descends url.pathAndQuery := by
  obtain ⟨parts, hbody, hne, hsettled⟩ := hnormal.parts
  obtain ⟨s, rest, hreads, hempty, hway⟩ :=
    ReadsBack.exists_dropWhile_slashed ⟨hsettled, hnormal.query⟩ hne
  rw [schemeOf?_eq_none_iff, wayOf, toList_pathAndQuery hbody, hway, hreads.clean_eq] at hscheme
  rw [Descends, wayOf, toList_pathAndQuery hbody, hway]
  exact hreads.descends_eq_true hempty hscheme site.base.scheme

/-- The path of a blob with an origin starts with a scheme. -/
theorem schemeOf?_ne_none_of_blob {inner : Url} (hpath : parse url.path = .ok inner) :
    schemeOf? url.pathAndQuery ≠ none := by
  rw [Ne, schemeOf?_eq_none_iff]
  obtain ⟨more, hscheme⟩ := exists_splitScheme_of_parse hpath
  have hquery : ∃ query, url.pathAndQuery = String.ofList (url.path.toList ++ query) := by
    refine ⟨(url.query.elim "" ("?" ++ ·)).toList, ?_⟩
    rw [← String.toList_append, String.ofList_toList, pathAndQuery]
  obtain ⟨query, hquery⟩ := hquery
  have hway : wayOf url.pathAndQuery = url.pathAndQuery := by
    rw [wayOf, hquery, String.toList_ofList]
    cases hlist : url.path.toList with
    | nil =>
      rw [← String.ofList_toList (s := url.path), hlist] at hscheme
      cases hscheme
    | cons c tail =>
      have hc : c ≠ '/' := by
        rintro rfl
        exact parse_ne_ok_of_slash hlist inner hpath
      rw [List.cons_append, List.dropWhile_cons_of_neg (by simpa using hc)]
  rw [hway, hquery]
  obtain ⟨rest, hclean⟩ := clean_prefix url.path.toList query
  rw [String.ofList_toList] at hclean
  rw [← hclean, splitScheme_append hscheme]
  simp

/-- A path that a redirect gave descends unless it starts with a scheme. -/
theorem descends_of_resolveLocation {current location : String}
    (h : Crawl.resolveLocation current location = some path)
    (hscheme : schemeOf? path = none) : site.Descends path := by
  obtain ⟨target, horigin, rfl, hnormal⟩ := Crawl.exists_of_resolveLocation h
  rw [Crawl.origin?_anchor] at horigin
  obtain ⟨hweb, -⟩ | ⟨-, inner, hinner⟩ := origin?_eq_some horigin
  · exact descends_pathAndQuery (hnormal hweb) hscheme
  · exact absurd hscheme (schemeOf?_ne_none_of_blob hinner)

/-! ### Planned pages -/

/-- True for the characters that have no meaning of their own in a path. -/
def isOrdinary (c : Char) : Bool :=
  Percent.isPlain Percent.inPath c && !(['%', ':', '\\'].contains c)

theorem ne_of_isOrdinary {c d : Char} (h : isOrdinary c = true) (hd : isOrdinary d = false) :
    c ≠ d := by
  rintro rfl
  rw [h] at hd
  cases hd

theorem toLower_eq_of_isOrdinary {c : Char} (h : isOrdinary c = true)
    (hlower : c.toLower = '.' ∨ c.toLower = '%') : c.toLower = c := by
  have hall : ∀ n < 0x80, (Char.ofNat n).toLower = '.' ∨ (Char.ofNat n).toLower = '%' →
      (Char.ofNat n).toLower = Char.ofNat n := by decide
  simp only [isOrdinary, Bool.and_eq_true] at h
  have := hall c.toNat (Percent.isPlain_iff.mp h.1).1
  rw [Char.ofNat_toNat] at this
  exact this hlower

/-- A name of ordinary characters that is no step is settled. -/
theorem isSettled_of_isOrdinary {s : String} (hname : IsName s) (hplain : IsPlain s)
    (h : ∀ c ∈ s.toList, isOrdinary c = true) : IsSettled s := by
  have hpercent : '%' ∉ (s.map Char.toLower).toList := by
    rw [String.toList_map, List.mem_map]
    rintro ⟨c, hc, hlower⟩
    have := toLower_eq_of_isOrdinary (h c hc) (.inr hlower)
    exact ne_of_isOrdinary (h c hc) (by decide) (this.symm.trans hlower)
  have hdots : ∀ t : String, (∀ c ∈ t.toList, c = '.') → s.map Char.toLower = t → s = t := by
    rintro t ht rfl
    rw [← String.toList_inj, String.toList_map]
    conv_lhs => rw [← List.map_id s.toList]
    refine List.map_congr_left fun c hc => (toLower_eq_of_isOrdinary (h c hc) (.inl ?_)).symm
    exact ht _ (by simpa using ⟨c, hc, rfl⟩)
  have hne : ∀ t : String, '%' ∈ t.toList → s.map Char.toLower ≠ t := by
    rintro t ht rfl
    exact hpercent ht
  refine ⟨fun c hc => ⟨?_, ?_⟩, ?_, ?_⟩
  · have := h c hc
    simp only [isOrdinary, Bool.and_eq_true] at this
    exact this.1
  · have hslash : c ≠ '/' := fun heq => hname.2 (heq ▸ hc)
    have hback : c ≠ '\\' := ne_of_isOrdinary (h c hc) (by decide)
    simp [endsSegment, hslash, hback]
  · have hdot : s.map Char.toLower ≠ "." := fun heq => hplain.1 (hdots "." (by simp) heq)
    simp [isSingleDot, hdot, hne "%2e" (by simp)]
  · have hdot : s.map Char.toLower ≠ ".." := fun heq => hplain.2 (hdots ".." (by simp) heq)
    simp [isDoubleDot, hdot, hne "%2e." (by simp), hne ".%2e" (by simp), hne "%2e%2e" (by simp)]

/-- A planned page of ordinary characters is read back. -/
theorem exists_readsBack_of_isOrdinary (hfixed : PlainPaths fixedPages) (hunits : PlainPaths units)
    (hpage : page ∈ planPages fixedPages units) (h : ∀ c ∈ page.toList, isOrdinary c = true) :
    ∃ s rest, page = String.ofList (slashed (s :: rest) ++ queryText none) ∧
      ReadsBack (s :: rest) none ∧ (s = "" → rest = []) ∧ schemeOf? page = none := by
  have hnames := forall_segments_of_mem_planPages hfixed hunits hpage
  have htext : page.toList = '/' :: ("/".intercalate (UrlPath.segments page)).toList := by
    conv_lhs => rw [← normalize_of_mem_planPages hpage, UrlPath.normalize]
    simp
  have hscheme : schemeOf? page = none := by
    rw [schemeOf?_eq_none_iff, Option.eq_none_iff_forall_ne_some]
    rintro ⟨scheme, more⟩ hsplit
    obtain ⟨written, -, -, hcolon⟩ := splitScheme_eq_some_iff.mp hsplit
    have hmem : ':' ∈ (wayOf page).toList := mem_of_mem_clean (by simp [hcolon])
    rw [wayOf, String.toList_ofList] at hmem
    exact ne_of_isOrdinary (h ':' ((List.dropWhile_suffix _).mem hmem)) (by decide) rfl
  cases hsegments : UrlPath.segments page with
  | nil =>
    rw [hsegments] at htext
    have hreads : ReadsBack [""] none := ⟨by simpa using isSettled_empty, by simp⟩
    refine ⟨"", [], ?_, hreads, fun _ => rfl, hscheme⟩
    rw [← String.toList_inj, htext]
    rfl
  | cons s rest =>
    rw [hsegments, intercalate_eq_slashed _ (by simp)] at htext
    have hsettled : ∀ t ∈ s :: rest, IsSettled t := by
      intro t ht
      have hname := hnames t (hsegments ▸ ht)
      refine isSettled_of_isOrdinary hname.1 hname.2 fun c hc => h c ?_
      rw [htext]
      exact List.mem_flatMap.mpr ⟨t, ht, .tail _ hc⟩
    refine ⟨s, rest, ?_, ⟨hsettled, by simp⟩, fun hempty => ?_, hscheme⟩
    · rw [← String.toList_inj, htext]
      simp [queryText]
    · exact absurd hempty (hnames s (hsegments ▸ .head _)).1.1

/-- A planned page of ordinary characters descends. -/
theorem descends_of_isOrdinary (hfixed : PlainPaths fixedPages) (hunits : PlainPaths units)
    (hpage : page ∈ planPages fixedPages units) (h : ∀ c ∈ page.toList, isOrdinary c = true) :
    site.Descends page := by
  obtain ⟨s, rest, rfl, hreads, hempty, hscheme⟩ :=
    exists_readsBack_of_isOrdinary hfixed hunits hpage h
  have hway := wayOf_of_readsBack hreads hempty
  rw [schemeOf?_eq_none_iff, hway, hreads.clean_eq] at hscheme
  rw [Descends, hway]
  exact hreads.descends_eq_true hempty hscheme site.base.scheme

/-! ### Requests -/

/-- **Requests stay within the site** as long as their paths descend from its base. A planned
page of ordinary characters descends, and so does a path that a redirect gave, unless it starts
with a scheme. A path that starts with another scheme than that of the base is requested
outside the site. -/
theorem requests_stay_within (hsite : ofText text = .ok site)
    (hscheme : site.base.scheme = "http" ∨ site.base.scheme = "https")
    (hfixed : PlainPaths fixedPages) (hunits : PlainPaths units)
    (hpage : page ∈ planPages fixedPages units) (web : Web) :
    ((∀ c ∈ page.toList, isOrdinary c = true) → site.Descends page) ∧
    ∀ k path, (Crawl.visit (site.router web) page).requested[k]? = some path →
      (0 < k → schemeOf? path = none → site.Descends path) ∧
      (site.Descends path → ∃ url, site.urlFor path = .ok url ∧ site.Holds url) ∧
      ∀ scheme, schemeOf? path = some scheme → scheme ≠ site.base.scheme →
        ∀ url, site.urlFor path = .ok url → ¬site.Holds url := by
  have hweb : IsWeb site.base.scheme := isWeb_of_http_or_https hscheme
  refine ⟨descends_of_isOrdinary hfixed hunits hpage, fun k path hrequest => ⟨?_, ?_, ?_⟩⟩
  · intro hk hnone
    obtain ⟨-, hchain⟩ := Crawl.requested_follow.mp hrequest
    obtain ⟨⟩ | ⟨-, -, hresolves⟩ := hchain
    · exact absurd hk (Nat.lt_irrefl 0)
    · exact descends_of_resolveLocation hresolves hnone
  · exact exists_urlFor_of_descends hsite hweb
  · exact fun scheme hown hother url => not_holds_of_scheme hsite hweb hown hother

/-! ### A site on the machine itself -/

/-- The site at `http://[::1]:8080/docs/`. -/
def loopback : Site where
  base :=
    { scheme := "http"
      host := some (.ipv6 [0, 0, 0, 0, 0, 0, 0, 1])
      port := some 8080
      body := .segments ["docs", ""] }

theorem ofText_loopback : ofText "http://[::1]:8080/docs/" = .ok loopback := by
  decide +kernel

/-- A web on which one page of the site has moved. -/
def movedWeb : Web := fun _ url =>
  if url.path = "/docs/a" then
    .ok { status := 302, headers := [("Location", Utf8.encode "/docs/b?q")] }
  else .ok {}

/-- The page is requested where it has moved to, which is within the site. -/
theorem requests_stay_within_moved_page :
    "/a" ∈ planPages [] ["a"] ∧
      (Crawl.visit (loopback.router movedWeb) "/a").requested[1]? = some "/b?q" ∧
      ∃ url, loopback.urlFor "/b?q" = .ok url ∧ loopback.Holds url := by
  have hpage : "/a" ∈ planPages [] ["a"] := by decide +kernel
  have hrequest : (Crawl.visit (loopback.router movedWeb) "/a").requested[1]? = some "/b?q" := by
    decide +kernel
  have hfixed : PlainPaths [] := by decide
  have hunits : PlainPaths ["a"] := by decide +kernel
  obtain ⟨-, hall⟩ :=
    requests_stay_within ofText_loopback (.inl rfl) hfixed hunits hpage movedWeb
  obtain ⟨hredirect, hholds, -⟩ := hall 1 "/b?q" hrequest
  exact ⟨hpage, hrequest, hholds (hredirect (by decide) (by decide +kernel))⟩

/-- A unit that is named like a URL is planned as a page of the site, and requested from the
host that it names. -/
theorem not_holds_of_page_named_like_url :
    PlainPaths ["https://[::2]/x"] ∧
      "/https:/[::2]/x" ∈ planPages [] ["https://[::2]/x"] ∧
      (Crawl.visit (loopback.router movedWeb) "/https:/[::2]/x").requested =
        ["/https:/[::2]/x"] ∧
      ∃ url, loopback.urlFor "/https:/[::2]/x" = .ok url ∧ url.text = "https://[::2]/x" ∧
        ¬loopback.Holds url := by
  refine ⟨by decide +kernel, by decide +kernel, by decide +kernel,
    { scheme := "https", host := some (.ipv6 [0, 0, 0, 0, 0, 0, 0, 2]), body := .segments ["x"] },
    by decide +kernel, by decide +kernel, ?_⟩
  exact fun hholds => absurd hholds.1 (by decide +kernel)

end Site

end SiteSnapshot
