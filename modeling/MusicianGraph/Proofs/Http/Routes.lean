import MusicianGraph.Http.Route

/-! # What routes give to their endpoints

A request reaches an endpoint by a route to it, and brings as many parameters as the pattern of that
route has. -/

namespace MusicianGraph.Route

/-- The parameters that segments give are as many as those of the pattern. -/
theorem length_of_matchSegments {pattern : List Segment} {segments parameters : List String}
    (fits : matchSegments pattern segments = some parameters) :
    parameters.length = pattern.count .parameter := by
  fun_induction matchSegments pattern segments generalizing parameters with
  | case1 | case2 =>
    cases fits
    rfl
  | case4 pattern s rest _ ih => exact ih fits
  | case7 pattern s rest _ ih =>
    obtain ⟨others, found, rfl⟩ := Option.map_eq_some_iff.mp fits
    rw [List.length_cons, ih found, List.count_cons_self]
  | _ => cases fits

/-- An endpoint is reached by one of the routes to it. -/
theorem exists_route_of_destination {method path : String} {e : Endpoint}
    {parameters : List String} (routed : destination method path = .endpoint e parameters) :
    ∃ r ∈ all, r.endpoint = e ∧ r.parameters? path = some parameters := by
  rw [destination] at routed
  dsimp only at routed
  split at routed
  · next r ps found =>
    cases routed
    obtain ⟨route, listed, fits⟩ := List.mem_filterMap.mp (List.mem_of_find?_eq_some found)
    obtain ⟨given, matched, same⟩ := Option.map_eq_some_iff.mp fits
    cases same
    exact ⟨r, listed, rfl, matched⟩
  · cases routed
  · split at routed <;> cases routed

/-- An endpoint is given as many parameters as the routes to it have. -/
theorem length_of_destination {method path : String} {e : Endpoint} {parameters : List String}
    {size : Nat} (routed : destination method path = .endpoint e parameters)
    (alike : ∀ r ∈ all, r.endpoint = e → r.pattern.count .parameter = size) :
    parameters.length = size := by
  obtain ⟨r, listed, leads, fits⟩ := exists_route_of_destination routed
  obtain ⟨segments, -, matched⟩ := Option.bind_eq_some_iff.mp fits
  rw [length_of_matchSegments matched, alike r listed leads]

end MusicianGraph.Route
