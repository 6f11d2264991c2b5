import ModuleDepot.Proofs.Config.Validation
import ModuleDepot.Proofs.Layout
import ModuleDepot.Proofs.Repository.Encoding

/-! # The URL of a resource

A repository asks for a URL that is put together as text: the root, the place of the module and the
resource. It is read part by part again (`partsAtEnd_place`). If no part of it leads elsewhere
(`IsLegible`), the request stays below the module (`requests_stay_below_module`).

The reader of URLs knows separators and blanks that paths do not know. If there are none in the
names and the resource (`IsClear`), plain names and a contained resource are legible. If there are,
the request can leave the module, and so it can where the root has a query
(`requests_leave_module`).
-/

namespace ModuleDepot.HttpRepository

open Url

variable {id : ModuleId} {resource : String}

/-! ## The parts of a request -/

/-- The segments that the reader of URLs finds in a text that goes on. -/
def partsInside (s : String) : List (List Char) := splitSegments true (visible s.toList)

/-- The segments that the reader of URLs finds in a text at the end. -/
def partsAtEnd (s : String) : List (List Char) := splitSegments true (tidied s.toList)

/-- The segments that the reader of URLs finds in the names of a module. -/
def moduleParts (id : ModuleId) : List (List Char) :=
  (id.segments ++ [id.slot]).flatMap partsInside

theorem partsAtEnd_separator (a b : String) :
    partsAtEnd (a ++ "/" ++ b) = partsInside a ++ partsAtEnd b := by
  have htext : (a ++ "/" ++ b).toList = a.toList ++ '/' :: b.toList := by simp
  rw [partsAtEnd, htext, tidied_append_cons rfl, splitSegments_append_cons rfl, partsInside,
    partsAtEnd]

/-- **A request is read part by part**, as it was put together. -/
theorem partsAtEnd_place (version : String) (id : ModuleId) (resource : String) :
    partsAtEnd (Layout.place version id ++ resource) =
      partsInside version ++ moduleParts id ++ partsAtEnd resource :=
  Layout.read_place partsAtEnd_separator version id resource

theorem partsAtEnd_ne_nil (s : String) : partsAtEnd s ≠ [] :=
  splitSegments_ne_nil true _

/-- The encoded text behind a root is followed from the names where the root stood. -/
theorem parse_encodePath {root scheme : String} {owner : Except UrlError Url} {start : List Char}
    (h : Opens root scheme owner start) (hroot : '?' ∉ root.toList ∧ '#' ∉ root.toList) :
    ∃ names, ∀ s : String, Url.parse (root ++ encodePath s) = owner.map fun u =>
      { u with
        path := .segments (followSegments scheme names
          ((partsAtEnd s).map (·.flatMap encodeChar))).reverse
        query := none
        fragment := none } := by
  obtain ⟨names, hnames⟩ := h.exists_names hroot
  refine ⟨names, fun s => ?_⟩
  have hencoded : (encodePath s).toList = s.toList.flatMap encodeChar := String.toList_ofList
  rw [hnames (encodePath s) ⟨hencoded ▸ not_mem_encode (.inl rfl) _,
    hencoded ▸ not_mem_encode (.inr rfl) _⟩, hencoded, tidied_encode, splitSegments_encode,
    partsAtEnd]

/-! ## Legible requests -/

/-- The reader of URLs does not find a part that leads elsewhere: none in the names of the module,
no step up in the resource, and a name at the end of it. -/
structure IsLegible (id : ModuleId) (resource : String) : Prop where
  names : ∀ part ∈ moduleParts id, part ≠ ['.'] ∧ part ≠ ['.', '.']
  noDots : ['.', '.'] ∉ partsAtEnd resource
  ends : ∃ last, (partsAtEnd resource).getLast? = some last ∧ last ≠ [] ∧ last ≠ ['.']

/-- Nothing in the names and the resource is read differently by paths and by URLs: there are
neither backslashes nor tabs nor line breaks, and neither a blank nor a control stands at the end.
-/
structure IsClear (id : ModuleId) (resource : String) : Prop where
  inside : ∀ name ∈ id.segments ++ [id.slot] ++ [resource], ∀ c ∈ name.toList,
    c ≠ '\\' ∧ isBreak c = false
  atEnd : ∀ c ∈ resource.toList.getLast?, isEdge c = false

/-- A clear text is seen as it is. -/
theorem visible_eq_self {cs : List Char} (h : ∀ c ∈ cs, c ≠ '\\' ∧ isBreak c = false) :
    visible cs = cs :=
  List.filter_eq_self.mpr fun c hc => by simp [(h c hc).2]

/-- A clear text has the parts of a path. -/
theorem splitSegments_of_clear {s : String} (h : ∀ c ∈ s.toList, c ≠ '\\' ∧ isBreak c = false) :
    splitSegments true s.toList = (separated '/' s).map String.toList := by
  have hsame : ∀ c ∈ s.toList, isSlash true c = (c == '/') := fun c hc => by
    simp [isSlash, (h c hc).1]
  rw [splitSegments, splitOnP_congr hsame, separated, List.splitOn, List.map_map]
  simp

/-- Clear plain names are the parts of their module. -/
theorem moduleParts_of_isClear (hid : id.IsPlain) (h : IsClear id resource) :
    moduleParts id = (id.segments ++ [id.slot]).map String.toList := by
  have hpart : ∀ name ∈ id.segments ++ [id.slot], partsInside name = [name.toList] := by
    intro name hmem
    have hclear := h.inside name (List.mem_append_left _ hmem)
    rw [partsInside, visible_eq_self hclear, splitSegments_of_clear hclear,
      Path.separated_eq_singleton (Layout.isPlainName_of_mem hid hmem).noSeparator]
    rfl
  rw [moduleParts, List.flatMap_congr hpart]
  exact List.flatMap_pure_eq_map _ _

/-- **Plain names and a contained resource are legible** if they are clear. -/
theorem isLegible_of_isClear (hid : id.IsPlain) (hresource : Layout.isContained resource = true)
    (h : IsClear id resource) : IsLegible id resource := by
  have hclear := h.inside resource (by simp)
  have hparts : partsAtEnd resource = (separated '/' resource).map String.toList := by
    rw [partsAtEnd, tidied_eq_visible h.atEnd, visible_eq_self hclear,
      splitSegments_of_clear hclear]
  obtain ⟨-, hdots, last, hlast, hempty, hdot⟩ :=
    (Layout.isContained_iff_parts fun hmem => (hclear _ hmem).1 rfl).mp hresource
  refine ⟨fun part hpart => ?_, fun hmem => ?_, last.toList, ?_, ?_, ?_⟩
  · rw [moduleParts_of_isClear hid h] at hpart
    obtain ⟨name, hname, rfl⟩ := List.mem_map.mp hpart
    have hplain := Layout.isPlainName_of_mem hid hname
    exact ⟨fun heq => hplain.ne_dot (String.toList_injective heq),
      fun heq => hplain.ne_dots (String.toList_injective heq)⟩
  · rw [hparts] at hmem
    obtain ⟨part, hpart, heq⟩ := List.mem_map.mp hmem
    obtain rfl : part = ".." := String.toList_injective heq
    exact hdots hpart
  · rw [hparts, List.getLast?_map, hlast, Option.map_some]
  · exact fun heq => hempty (String.toList_eq_nil_iff.mp heq)
  · exact fun heq => hdot (String.toList_injective heq)

/-! ## Below the module -/

/-- The names of a module as they stand in the path of a URL. -/
def moduleNames (id : ModuleId) : List String := (moduleParts id).map written

/-- The parts of a resource as they stand in the path of a URL, without those that stay. -/
def resourceNames (resource : String) : List String :=
  ((partsAtEnd resource).filter (· ≠ ['.'])).map written

/-- The last part of a legible resource is a name, and is not left out. -/
theorem resourceNames_getLast? (h : IsLegible id resource) :
    ∃ last, (resourceNames resource).getLast? = some last ∧ last ≠ "" := by
  obtain ⟨last, hlast, hempty, hdot⟩ := h.ends
  obtain ⟨init, hparts⟩ := List.getLast?_eq_some_iff.mp hlast
  refine ⟨written last, ?_, mt written_eq_empty hempty⟩
  rw [resourceNames, hparts, List.filter_append, List.filter_cons_of_pos (by simpa using hdot),
    List.filter_nil, List.map_append, List.map_singleton, List.getLast?_concat]

/-- **What is legible is followed name by name**, from the names where the version leads. -/
theorem parse_legible {root scheme : String} {owner : Except UrlError Url} {start : List Char}
    (hopens : Opens root scheme owner start) (hroot : '?' ∉ root.toList ∧ '#' ∉ root.toList)
    (h : IsLegible id resource) (version : String) :
    ∃ above : List String,
      Url.parse (root ++ encodePath (version ++ "/")) = owner.map (fun u =>
        { u with path := .segments (above ++ [""]), query := none, fragment := none }) ∧
      Url.parse (root ++ encodePath (Layout.place version id ++ resource)) = owner.map fun u =>
        { u with
          path := .segments (above ++ moduleNames id ++ resourceNames resource)
          query := none
          fragment := none } := by
  obtain ⟨names, hparse⟩ := parse_encodePath hopens hroot
  have hscheme := hopens.isWeb.ne_file
  refine ⟨(((partsInside version).map (·.flatMap encodeChar)).foldl (passBy scheme) names).reverse,
    ?_, ?_⟩
  · have hparts : partsAtEnd (version ++ "/") = partsInside version ++ [[]] := by
      have := partsAtEnd_separator version ""
      rwa [String.append_empty] at this
    have hlast : ∀ names, followSegments scheme names [[]] = "" :: names := fun names => by
      rw [followSegments, if_neg (by decide), if_neg (by decide), nameOf_eq hscheme]
      rfl
    rw [hparse, hparts, List.map_append, followSegments_append (by simp), List.map_singleton,
      List.flatMap_nil, hlast, List.reverse_cons]
  · obtain ⟨last, hlast, -, hdot⟩ := h.ends
    have hends : (partsAtEnd resource).getLast? ≠ some ['.'] := fun heq =>
      hdot (Option.some.inj (hlast.symm.trans heq))
    rw [hparse, partsAtEnd_place, List.map_append, List.map_append,
      followSegments_append (by simpa using partsAtEnd_ne_nil resource), List.foldl_append,
      foldl_passBy_encode hscheme h.names,
      followSegments_encode hscheme (partsAtEnd_ne_nil resource) h.noDots hends,
      List.reverse_append, List.reverse_reverse, List.reverse_append, List.reverse_reverse]
    rfl

/-- What is requested has a query or a fragment exactly if the root has the sign of one. -/
theorem marks_iff {root scheme : String} {owner : Except UrlError Url} {start : List Char}
    (hopens : Opens root scheme owner start) {s : String} {u : Url}
    (h : Url.parse (root ++ encodePath s) = .ok u) :
    u.query = none ∧ u.fragment = none ↔ '?' ∉ root.toList ∧ '#' ∉ root.toList := by
  have hencoded : (encodePath s).toList = s.toList.flatMap encodeChar := String.toList_ofList
  have hmark : ∀ {mark : Char}, mark = '?' ∨ mark = '#' →
      (mark ∉ start ++ tidied (encodePath s).toList ↔ mark ∉ root.toList) := by
    intro mark hmark
    have hnone : mark ∉ tidied (encodePath s).toList :=
      mt mem_of_mem_tidied (hencoded ▸ not_mem_encode hmark _)
    rw [List.mem_append, hopens.marks mark hmark]
    simp [hnone]
  rw [hopens.parse] at h
  obtain ⟨v, -, rfl⟩ := exists_of_map h
  rw [readPath_marks, hmark (.inl rfl), hmark (.inr rfl)]

/-! ## Requests -/

/-- **Requests stay below the module.** Let a configuration be usable. The URL of a resource can be
read if and only if that of the root can, with the slash at its end; so it can unless the root ends
in a blank or a control. It has neither query nor fragment if and only if the root has no sign of
them.

If so, and if the names and the resource are legible, then its path is the path of the URL of the
version, behind it the names of the module, and behind these the parts of the resource, of which the
last is a name. Plain names with a contained resource are legible if they are clear, and then the
names of the module are the segments and the slot. -/
theorem requests_stay_below_module {c c' : Config} (hc : c.validate = .ok c') (id : ModuleId)
    (resource : String) :
    let r := create c'.rootUrl c'.timeout c'.retry
    let target := r.target ⟨Layout.place c'.repositoryVersion id, resource⟩
    ((∃ u, Url.parse target = .ok u) ↔ ∃ u, Url.parse c'.rootUrl = .ok u) ∧
    ((∀ last ∈ c.rootUrl.toList.getLast?, isEdge last = false) → ∃ u, Url.parse target = .ok u) ∧
    (id.IsPlain → Layout.isContained resource = true → IsClear id resource →
      IsLegible id resource ∧
      moduleNames id = (id.segments ++ [id.slot]).map (written ·.toList)) ∧
    ∀ u, Url.parse target = .ok u →
      (u.query = none ∧ u.fragment = none ↔ '?' ∉ c.rootUrl.toList ∧ '#' ∉ c.rootUrl.toList) ∧
      (u.query = none ∧ u.fragment = none → IsLegible id resource →
        ∃ above,
          Url.parse (c'.rootUrl ++ encodePath (c'.repositoryVersion ++ "/")) =
            .ok { u with path := .segments (above ++ [""]) } ∧
          u.path = .segments (above ++ moduleNames id ++ resourceNames resource) ∧
          ∃ last, (resourceNames resource).getLast? = some last ∧ last ≠ "") := by
  intro r target
  obtain ⟨stem, hroot, hstem, v, hv, hweb⟩ := Config.exists_of_validate hc
  -- The scheme and the host are those of the root, whatever is requested.
  obtain ⟨scheme, owner, start, hopens, howner⟩ := exists_opens hv hweb hstem
  have htarget : target =
      stem ++ "/" ++ encodePath (Layout.place c'.repositoryVersion id ++ resource) := by
    rw [encodePath_append, ← String.append_assoc, ← slashTerminated_slash, ← hroot]
    rfl
  -- The slash that was added at the end is not the sign of anything.
  have hmarks : ∀ {mark : Char}, mark = '?' ∨ mark = '#' →
      (mark ∈ (stem ++ "/").toList ↔ mark ∈ c.rootUrl.toList) := by
    intro mark hmark
    have hslash : mark ≠ '/' := by rcases hmark with rfl | rfl <;> decide
    rcases hstem with hstem | hstem
    · rw [hstem]
    · simp [hstem, hslash]
  have hmarks' : '?' ∉ (stem ++ "/").toList ∧ '#' ∉ (stem ++ "/").toList ↔
      '?' ∉ c.rootUrl.toList ∧ '#' ∉ c.rootUrl.toList :=
    and_congr (not_congr (hmarks (.inl rfl))) (not_congr (hmarks (.inr rfl)))
  have hreads : ∀ s, (∃ u, Url.parse (stem ++ "/" ++ s) = .ok u) ↔ ∃ v, owner = .ok v := by
    intro s
    rw [hopens.parse]
    cases owner with
    | error e => simp [Except.map]
    | ok v => simp [Except.map]
  rw [hroot, htarget]
  refine ⟨?_, fun hlast => (hreads _).mpr (howner hlast), fun hid hresource hclear => ⟨?_, ?_⟩,
    fun u hu => ⟨?_, fun hnone hlegible => ?_⟩⟩
  · have := hreads ""
    rw [String.append_empty] at this
    rw [hreads, this]
  · exact isLegible_of_isClear hid hresource hclear
  · rw [moduleNames, moduleParts_of_isClear hid hclear, List.map_map]
    rfl
  · rw [marks_iff hopens hu, hmarks']
  · have hnone' := (marks_iff hopens hu).mp hnone
    obtain ⟨above, hbase, hparse⟩ := parse_legible hopens hnone' hlegible c'.repositoryVersion
    refine ⟨above, ?_, ?_, resourceNames_getLast? hlegible⟩
    all_goals
      rw [hparse] at hu
      obtain ⟨v, rfl, rfl⟩ := exists_of_map hu
    · exact hbase
    · rfl

/-- A usable configuration, but for the slash at the end of its root. -/
def slashless : Config := { Config.ofCacheRoot ⟨"/c"⟩ with rootUrl := "http://h/m" }

/-- A resource with a blank in its name is requested from the directory of its module. -/
theorem requests_stay_below_module_of_jar :
    let c' := { slashless with rootUrl := "http://h/m/" }
    let id : ModuleId := ⟨"org.lib", "main"⟩
    let target := (create c'.rootUrl c'.timeout c'.retry).target
      ⟨Layout.place c'.repositoryVersion id, "lib/a b.jar"⟩
    slashless.validate = .ok c' ∧ id.IsPlain ∧ IsClear id "lib/a b.jar" ∧
    ∃ u, Url.parse target = .ok u ∧ u.query = none ∧ u.fragment = none ∧
      u.path = .segments ["m", "trunk", "org", "lib", "main", "lib", "a%20b.jar"] := by
  intro c' id target
  have hvalid : slashless.validate = .ok c' := by decide +kernel
  have hid : id.IsPlain := by decide
  have hclear : IsClear id "lib/a b.jar" := by
    have hsegments : id.segments = ["org", "lib"] := by decide
    exact ⟨by simp [hsegments, id, isBreak], by simp [isEdge]⟩
  obtain ⟨-, hexists, hlegible, hbelow⟩ := requests_stay_below_module hvalid id "lib/a b.jar"
  obtain ⟨hlegible, -⟩ := hlegible hid (by decide) hclear
  obtain ⟨u, hu⟩ := hexists (by simp [slashless, isEdge])
  obtain ⟨hmarks, hpath⟩ := hbelow u hu
  have hnone : u.query = none ∧ u.fragment = none := hmarks.mpr (by decide)
  obtain ⟨above, hbase, hpath, -⟩ := hpath hnone hlegible
  have hversion : (Url.parse (c'.rootUrl ++ encodePath (c'.repositoryVersion ++ "/"))).map
      (·.path) = .ok (.segments (["m", "trunk"] ++ [""])) := by decide +kernel
  rw [hbase] at hversion
  have habove : above ++ [""] = ["m", "trunk"] ++ [""] :=
    UrlPath.segments.inj (Except.ok.inj hversion)
  rw [List.append_cancel_right habove] at hpath
  refine ⟨hvalid, hid, hclear, u, hu, hnone.1, hnone.2, hpath.trans ?_⟩
  decide +kernel

/-- **Requests can leave the module, or not be made.** A contained resource leads up by backslashes.
A root with a query takes the module into the query. A blank at the end of a root becomes part of
the host, which is none then. -/
theorem requests_leave_module :
    let id : ModuleId := ⟨"m", "main"⟩
    let resource := "a\\..\\..\\..\\x"
    let path (c : Config) := c.validate.toOption.map fun c' =>
      (Url.parse ((create c'.rootUrl c'.timeout c'.retry).target
        ⟨Layout.place c'.repositoryVersion id, resource⟩)).map fun u => (u.path, u.query)
    id.IsPlain ∧ Layout.isContained resource = true ∧
    path slashless = some (.ok (.segments ["m", "trunk", "x"], none)) ∧
    path { slashless with rootUrl := "http://h/?q" } =
      some (.ok (.segments [""], some "q/trunk/m/main/a\\..\\..\\..\\x")) ∧
    path { slashless with rootUrl := "http://h " } = some (.error .invalidDomain) := by
  intro id resource path
  exact ⟨by decide, by decide, by decide +kernel, by decide +kernel, by decide +kernel⟩

end ModuleDepot.HttpRepository
