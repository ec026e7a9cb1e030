import SearchAnnotation.Proofs.FailedRequests
import SearchAnnotation.Proofs.PercentCoding

/-!
# The way to a page

The page of a query has an address that codes the query's name, so the decoded path holds the name
as it is. A route takes this path apart at its slashes and lets a slug stand for one piece that is
not empty. Hence a page is reached by its address exactly if the name of its query is such a piece:
there is no way to the page of the empty name, nor to one with a slash in its name, and the same
holds for its ranks.
-/

namespace SearchAnnotation

namespace Text

variable {separator : Char} {s piece : List Char}

/-- A separator in front makes for an empty piece. -/
theorem pieces_cons_separator (rest : List Char) :
    pieces (· == separator) (separator :: rest) = [] :: pieces (· == separator) rest := by
  simp only [pieces, beq_self_eq_true, if_true]

/-- Any other character in front belongs to the first piece. -/
theorem pieces_cons_of_ne {c : Char} (hc : c ≠ separator) (rest : List Char) :
    ∃ first others, pieces (· == separator) rest = first :: others ∧
      pieces (· == separator) (c :: rest) = (c :: first) :: others := by
  obtain ⟨first, others, hrest⟩ := List.exists_cons_of_ne_nil (pieces_ne_nil rest)
  refine ⟨first, others, hrest, ?_⟩
  rw [pieces, if_neg (by rw [beq_iff_eq]; exact hc), hrest]

/-- The separator is in none of the pieces. -/
theorem notMem_of_mem_pieces (h : piece ∈ pieces (· == separator) s) : separator ∉ piece := by
  induction s generalizing piece with
  | nil =>
    rw [List.mem_singleton.mp h]
    exact List.not_mem_nil
  | cons c rest ih =>
    by_cases hc : c = separator
    · rw [hc, pieces_cons_separator] at h
      rcases List.mem_cons.mp h with rfl | h
      · exact List.not_mem_nil
      · exact ih h
    · obtain ⟨first, others, hrest, hpieces⟩ := pieces_cons_of_ne hc rest
      rw [hrest] at ih
      rw [hpieces] at h
      rcases List.mem_cons.mp h with rfl | h
      · rw [List.mem_cons, not_or]
        exact ⟨Ne.symm hc, ih List.mem_cons_self⟩
      · exact ih (List.mem_cons_of_mem first h)

/-- The pieces of two texts with a separator between them are those of both. -/
theorem pieces_append (front back : List Char) :
    pieces (· == separator) (front ++ separator :: back) =
      pieces (· == separator) front ++ pieces (· == separator) back := by
  induction front with
  | nil => exact pieces_cons_separator back
  | cons c rest ih =>
    rw [List.cons_append]
    by_cases hc : c = separator
    · rw [hc, pieces_cons_separator, pieces_cons_separator, ih, List.cons_append]
    · obtain ⟨first, others, hrest, hpieces⟩ := pieces_cons_of_ne hc rest
      obtain ⟨first', others', hwhole, hpieces'⟩ :=
        pieces_cons_of_ne hc (rest ++ separator :: back)
      rw [ih, hrest, List.cons_append] at hwhole
      obtain ⟨rfl, rfl⟩ := List.cons.inj hwhole
      rw [hpieces, hpieces', List.cons_append]

/-- A text is its only piece exactly if the separator is not in it. -/
theorem pieces_eq_singleton_iff :
    pieces (· == separator) s = [piece] ↔ piece = s ∧ separator ∉ s := by
  constructor
  · intro h
    have hwhole : [separator].intercalate (pieces (· == separator) s) = s := intercalate_pieces s
    rw [h, List.intercalate_singleton] at hwhole
    have hnot : separator ∉ piece := notMem_of_mem_pieces (h ▸ List.mem_singleton_self piece)
    exact ⟨hwhole, hwhole ▸ hnot⟩
  · rintro ⟨rfl, hnot⟩
    induction piece with
    | nil => rfl
    | cons c rest ih =>
      rw [List.mem_cons, not_or] at hnot
      obtain ⟨first, others, hrest, hpieces⟩ := pieces_cons_of_ne (Ne.symm hnot.1) rest
      obtain ⟨rfl, rfl⟩ := List.cons.inj (hrest.symm.trans (ih hnot.2))
      exact hpieces

end Text

namespace Service

variable {qid slug : String}

/-- Whether a name can stand for one segment of a path. -/
def IsSegment (qid : String) : Prop := qid ≠ "" ∧ '/' ∉ qid.toList

instance (qid : String) : Decidable (IsSegment qid) := inferInstanceAs (Decidable (_ ∧ _))

/-- The path of a query's page, as a request for its address has it once that is decoded. -/
def pagePath (qid : String) : List Char :=
  Text.percentDecode ("/annotate/".toList ++ Text.percentEncode Text.isUnreserved qid.toList)

/-- The path of a query's ranks, as a request for their address has it once that is decoded. -/
def ranksPath (qid : String) : List Char :=
  Text.percentDecode
    ("/annotate/".toList ++ Text.percentEncode Text.isUnreserved qid.toList ++ "/ranks".toList)

/-- The path of a page holds the name as it is. -/
theorem pagePath_eq (qid : String) : pagePath qid = "/annotate/".toList ++ qid.toList := by
  have hdecode : Text.percentDecode
      ("/annotate/".toList ++ Text.percentEncode Text.isUnreserved qid.toList ++ []) =
        "/annotate/".toList ++ qid.toList ++ [] :=
    Text.percentDecode_percentEncode_between rfl (by decide) List.not_mem_nil qid.toList
  rw [List.append_nil, List.append_nil] at hdecode
  exact hdecode

/-- The path of ranks holds the name as it is. -/
theorem ranksPath_eq (qid : String) :
    ranksPath qid = "/annotate/".toList ++ qid.toList ++ "/ranks".toList :=
  Text.percentDecode_percentEncode_between rfl (by decide) (by decide) qid.toList

theorem pieces_pagePath (qid : String) :
    Text.pieces (· == '/') (pagePath qid) =
      [] :: "annotate".toList :: Text.pieces (· == '/') qid.toList := by
  rw [pagePath_eq, show "/annotate/".toList = "/annotate".toList ++ ['/'] from rfl,
    List.append_assoc, List.singleton_append, Text.pieces_append]
  rfl

theorem pieces_ranksPath (qid : String) :
    Text.pieces (· == '/') (ranksPath qid) =
      [] :: "annotate".toList :: (Text.pieces (· == '/') qid.toList ++ ["ranks".toList]) := by
  rw [ranksPath_eq, ← pagePath_eq, show "/ranks".toList = '/' :: "ranks".toList from rfl,
    Text.pieces_append, pieces_pagePath]
  rfl

/-- The route that stores ranks. -/
def ranksRoute : Route := ⟨[.fixed "annotate", .slug, .fixed "ranks"], .post, .postRanks⟩

/-- A slug in front stands for the first piece, if that is not empty and the rest matches. -/
theorem matchSegments_slug_cons {tail : List Segment} {piece name : List Char}
    {pieces : List (List Char)} :
    matchSegments (.slug :: tail) (piece :: pieces) = some name ↔
      piece = name ∧ name ≠ [] ∧ (matchSegments tail pieces).isSome = true := by
  rw [matchSegments]
  cases piece with
  | nil =>
    refine iff_of_false (Option.some_ne_none name).symm ?_
    rintro ⟨rfl, hempty, -⟩
    exact hempty rfl
  | cons c rest =>
    cases matchSegments tail pieces with
    | none =>
      exact iff_of_false (Option.some_ne_none name).symm fun h => Bool.false_ne_true h.2.2
    | some matched =>
      constructor
      · intro h
        cases h
        exact ⟨rfl, List.cons_ne_nil c rest, rfl⟩
      · rintro ⟨rfl, -, -⟩
        rfl

/-- What follows a slug and matches just the last pieces leaves one piece for the slug. -/
theorem matchSegments_slug_iff {tail : List Segment} {pieces last : List (List Char)}
    {name : List Char}
    (ends : ∀ more, (matchSegments tail (more ++ last)).isSome = true ↔ more = [])
    (nonempty : pieces ≠ []) :
    matchSegments (.slug :: tail) (pieces ++ last) = some name ↔ pieces = [name] ∧ name ≠ [] := by
  obtain ⟨first, more, rfl⟩ := List.exists_cons_of_ne_nil nonempty
  rw [List.cons_append, matchSegments_slug_cons, ends, List.cons.injEq]
  constructor
  · rintro ⟨hfirst, hempty, hmore⟩
    exact ⟨⟨hfirst, hmore⟩, hempty⟩
  · rintro ⟨⟨hfirst, hmore⟩, hempty⟩
    exact ⟨hfirst, hempty, hmore⟩

/-- Nothing follows the slug of a page. -/
theorem page_ends (more : List (List Char)) :
    (matchSegments [] (more ++ [])).isSome = true ↔ more = [] := by
  cases more with
  | nil => exact iff_of_true rfl rfl
  | cons piece rest => exact iff_of_false (fun h => nomatch h) (List.cons_ne_nil piece rest)

/-- One segment follows the slug of ranks. -/
theorem ranks_ends (more : List (List Char)) :
    (matchSegments [.fixed "ranks"] (more ++ ["ranks".toList])).isSome = true ↔ more = [] := by
  match more with
  | [] => exact iff_of_true rfl rfl
  | [piece] =>
    refine iff_of_false ?_ (List.cons_ne_nil piece [])
    simp only [List.singleton_append, matchSegments, ite_self, Option.isSome_none,
      Bool.false_eq_true, not_false_eq_true]
  | piece :: second :: rest =>
    refine iff_of_false ?_ (List.cons_ne_nil piece _)
    simp only [List.cons_append, matchSegments, ite_self, Option.isSome_none, Bool.false_eq_true,
      not_false_eq_true]

section Slugs

variable {tail : List Segment} {last : List (List Char)} {method : Exchange.Method}
  {action : Action} {path : List Char}

/-- A route of pages gives a path with a name in it the slug of that name, if it is a segment. -/
theorem slug?_iff (ends : ∀ more, (matchSegments tail (more ++ last)).isSome = true ↔ more = [])
    (hpath : Text.pieces (· == '/') path =
      [] :: "annotate".toList :: (Text.pieces (· == '/') qid.toList ++ last)) :
    (Route.mk (.fixed "annotate" :: .slug :: tail) method action).slug? path = some slug ↔
      IsSegment qid ∧ slug = qid := by
  have hslug : (Route.mk (.fixed "annotate" :: .slug :: tail) method action).slug? path =
      (matchSegments (.slug :: tail) (Text.pieces (· == '/') qid.toList ++ last)).map
        String.ofList := by
    simp only [Route.slug?, hpath, matchSegments, if_true]
  rw [hslug, Option.map_eq_some_iff]
  simp only [matchSegments_slug_iff ends (Text.pieces_ne_nil _), Text.pieces_eq_singleton_iff]
  constructor
  · rintro ⟨name, ⟨⟨rfl, hslash⟩, hempty⟩, rfl⟩
    refine ⟨⟨?_, hslash⟩, String.ofList_toList⟩
    rintro rfl
    exact hempty rfl
  · rintro ⟨⟨hempty, hslash⟩, rfl⟩
    refine ⟨slug.toList, ⟨⟨rfl, hslash⟩, fun hnil => hempty ?_⟩, String.ofList_toList⟩
    exact String.toList_inj.mp hnil

/-- No other route takes a path that begins as that of a page. -/
theorem slug?_of_api {segments : List Segment} {more : List (List Char)} (h : segments ≠ [])
    (hpath : Text.pieces (· == '/') path = [] :: "annotate".toList :: more) :
    (Route.mk (.fixed "api" :: segments) method action).slug? path = none := by
  obtain ⟨second, others, rfl⟩ := List.exists_cons_of_ne_nil h
  have hapart : "annotate".toList ≠ "api".toList := by decide
  simp only [Route.slug?, hpath, matchSegments, hapart, if_false, Option.map_none]

/-- A path that begins as that of a page is taken by the route of pages or by that of ranks. -/
theorem eq_pageRoute_or_eq_ranksRoute {route : Route} {more : List (List Char)}
    (hpath : Text.pieces (· == '/') path = [] :: "annotate".toList :: more)
    (hroute : route ∈ routes) (hslug : route.slug? path = some slug) :
    route = pageRoute ∨ route = ranksRoute := by
  simp only [routes, List.mem_cons, List.not_mem_nil, or_false] at hroute
  rcases hroute with rfl | rfl | hapi
  · exact .inl rfl
  · exact .inr rfl
  · have hsegments : ∃ segments method action, segments ≠ [] ∧
        route = ⟨.fixed "api" :: segments, method, action⟩ := by
      rcases hapi with rfl | rfl | rfl | rfl <;> exact ⟨_, _, _, List.cons_ne_nil _ _, rfl⟩
    obtain ⟨segments, method, action, hmore, rfl⟩ := hsegments
    rw [slug?_of_api hmore hpath] at hslug
    cases hslug

end Slugs

/-- The route of pages takes the path of a page exactly if the name is a segment. -/
theorem pageRoute_slug?_iff :
    pageRoute.slug? (pagePath qid) = some slug ↔ IsSegment qid ∧ slug = qid :=
  slug?_iff page_ends (by rw [List.append_nil]; exact pieces_pagePath qid)

/-- The route of ranks takes the path of ranks exactly if the name is a segment. -/
theorem ranksRoute_slug?_iff :
    ranksRoute.slug? (ranksPath qid) = some slug ↔ IsSegment qid ∧ slug = qid :=
  slug?_iff ranks_ends (pieces_ranksPath qid)

/-- The route of pages does not take the path of ranks, which has too many segments. -/
theorem pageRoute_slug?_ranksPath (qid : String) : pageRoute.slug? (ranksPath qid) = none := by
  have hlonger : ranksPath qid = pagePath (qid ++ "/ranks") := by
    rw [ranksPath_eq, pagePath_eq, String.toList_append, List.append_assoc]
  rw [hlonger]
  cases hslug : pageRoute.slug? (pagePath (qid ++ "/ranks")) with
  | none => rfl
  | some slug =>
    obtain ⟨⟨-, hslash⟩, -⟩ := pageRoute_slug?_iff.mp hslug
    rw [String.toList_append, List.mem_append, not_or] at hslash
    exact absurd List.mem_cons_self hslash.2

/-- A request takes the first route that knows its path, if its method is the route's. -/
theorem dispatch_of_head? {path : List Char} (route : Route)
    (h : (matching path).head? = some (route, slug)) :
    dispatch route.method.name path = .action route.action slug := by
  obtain ⟨others, hmatching⟩ := List.head?_eq_some_iff.mp h
  simp only [dispatch, hmatching, List.find?_cons, beq_self_eq_true]

/-- The path of a page leads a reading request to the page of the name, if that is a segment, and
to no other action. -/
theorem dispatch_pagePath_iff {action : Action} :
    dispatch "GET" (pagePath qid) = .action action slug ↔
      IsSegment qid ∧ action = .showPage ∧ slug = qid := by
  constructor
  · intro h
    obtain ⟨route, hroute, hmethod, haction, hslug⟩ := exists_route_of_dispatch h
    rcases eq_pageRoute_or_eq_ranksRoute (pieces_pagePath qid) hroute hslug with rfl | rfl
    · obtain ⟨hsegment, rfl⟩ := pageRoute_slug?_iff.mp hslug
      exact ⟨hsegment, haction.symm, rfl⟩
    · exact absurd hmethod (by decide)
  · rintro ⟨hsegment, rfl, rfl⟩
    refine dispatch_of_head? pageRoute ?_
    rw [matching, show routes = pageRoute :: routes.tail from rfl, List.filterMap_cons,
      pageRoute_slug?_iff.mpr ⟨hsegment, rfl⟩]
    rfl

/-- The path of ranks leads a posting request to the ranks of the name, if that is a segment, and
to no other action. -/
theorem dispatch_ranksPath_iff {action : Action} :
    dispatch "POST" (ranksPath qid) = .action action slug ↔
      IsSegment qid ∧ action = .postRanks ∧ slug = qid := by
  constructor
  · intro h
    obtain ⟨route, hroute, hmethod, haction, hslug⟩ := exists_route_of_dispatch h
    rcases eq_pageRoute_or_eq_ranksRoute (pieces_ranksPath qid) hroute hslug with rfl | rfl
    · exact absurd hmethod (by decide)
    · obtain ⟨hsegment, rfl⟩ := ranksRoute_slug?_iff.mp hslug
      exact ⟨hsegment, haction.symm, rfl⟩
  · rintro ⟨hsegment, rfl, rfl⟩
    refine dispatch_of_head? ranksRoute ?_
    rw [matching, show routes = pageRoute :: ranksRoute :: routes.tail.tail from rfl,
      List.filterMap_cons, pageRoute_slug?_ranksPath, List.filterMap_cons,
      ranksRoute_slug?_iff.mpr ⟨hsegment, rfl⟩]
    rfl

end Service

end SearchAnnotation
