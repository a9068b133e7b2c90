import Tropek.Http.Routes
import Tropek.Registry.Definitions

namespace Tropek
namespace Http

open Library PathPattern

/-!
# The names of SLOs in paths

Below `/slo-definitions/` a path is either one of four literal ones, or it ends like the
list of versions, or it is the path of a definition; the middleware and the router decide
this in the same order.  A name can therefore be read and deactivated under its own path
unless it is one of the four words or ends with `/versions`, and its versions can be
listed whatever it is.
-/

def isElsewhere (start path : List Char) : Bool :=
  diverge path start &&
    match compileLetters path with
    | .text letters :: _ => diverge letters start
    | _ => false

def Route.isElsewhere (route : Route) : Bool :=
  Http.isElsewhere sloStart route.path.toList

def Elsewhere (routes : List Route) : Prop :=
  forall route, route ∈ routes -> route.isElsewhere = true

def sloLetters : List Char :=
  ['/', 's', 'l', 'o', '-', 'd', 'e', 'f', 'i', 'n', 'i', 't', 'i', 'o', 'n', 's', '/']

theorem sloStart_eq : sloStart = sloLetters :=
  String.toList_ofList

theorem Route.isElsewhere_ofList {route : Route} (letters : List Char)
    (same : route.path = String.ofList letters)
    (apart : Http.isElsewhere sloLetters letters = true) :
    route.isElsewhere = true := by
  unfold Route.isElsewhere
  rw [same, String.toList_ofList, sloStart_eq, apart]

theorem before_elsewhere : Elsewhere routesBeforeSlo := by
  simp only [Elsewhere, routesBeforeSlo, docsRoutes, assetMetaRoutes, assetsRoutes, datasourceRoutes, sliRoutes,
    List.forall_mem_append, List.forall_mem_cons]
  repeat' apply And.intro
  all_goals first
    | exact Route.isElsewhere_ofList _ rfl rfl
    | exact fun _ impossible => absurd impossible List.not_mem_nil

theorem after_elsewhere : Elsewhere routesAfterSlo := by
  simp only [Elsewhere, routesAfterSlo, sloGroupsRoutes, qualityGateRoutes, assignmentsRoutes,
    changePointsRoutes, configurationRoutes, displayGroupsRoutes, mainRoutes,
    List.forall_mem_append, List.forall_mem_cons]
  repeat' apply And.intro
  all_goals first
    | exact Route.isElsewhere_ofList _ rfl rfl
    | exact fun _ impossible => absurd impossible List.not_mem_nil

section Elsewhere

variable {route : Route} (elsewhere : route.isElsewhere = true) (rest : List Char)
include elsewhere

theorem Route.params_elsewhere : route.pattern.params (sloStart ++ rest) = none := by
  have apart := (Bool.and_eq_true_iff.mp elsewhere).2
  unfold Route.pattern compilePath
  revert apart
  cases compileLetters route.path.toList with
  | nil => exact fun impossible => by cases impossible
  | cons part parts =>
      cases part with
      | text letters => exact fun apart => params_of_diverge apart parts rest
      | segment name => exact fun impossible => by cases impossible
      | rest name => exact fun impossible => by cases impossible

theorem Route.path_elsewhere : route.path.toList ≠ sloStart ++ rest := by
  intro same
  have apart := diverge_isPrefixOf (Bool.and_eq_true_iff.mp elsewhere).1 rest
  rw [<- same, List.isPrefixOf_iff_prefix.mpr List.prefix_rfl] at apart
  cases apart

end Elsewhere

section Router

variable (method : Method) (rest : List Char)

theorem findSome_elsewhere {routes : List Route} (elsewhere : Elsewhere routes) :
    routes.findSome? (fun route => route.takes method (sloStart ++ rest)) = none := by
  rw [List.findSome?_eq_none_iff]
  intro route member
  unfold Route.takes
  rw [Route.params_elsewhere (elsewhere route member)]
  split <;> rfl

theorem findSome_app : appRoutes.findSome? (fun route => route.takes method (sloStart ++ rest)) =
    sloRoutes.findSome? fun route => route.takes method (sloStart ++ rest) := by
  unfold appRoutes
  rw [List.findSome?_append, List.findSome?_append, findSome_elsewhere method rest before_elsewhere,
    findSome_elsewhere method rest after_elsewhere, Option.none_or, Option.or_none]

theorem literalMethods_app : literalMethods appRoutes (sloStart ++ rest) =
    literalMethods sloRoutes (sloStart ++ rest) := by
  have nothing : forall routes : List Route, Elsewhere routes ->
      literalMethods routes (sloStart ++ rest) = [] := by
    intro routes elsewhere
    unfold literalMethods
    rw [List.filter_eq_nil_iff.mpr, List.flatMap_nil]
    intro route member
    have different := Route.path_elsewhere (elsewhere route member) rest
    rw [decide_eq_false different, Bool.and_false]
    exact Bool.false_ne_true
  have both : forall first second : List Route, literalMethods (first ++ second) (sloStart ++ rest) =
      literalMethods first (sloStart ++ rest) ++ literalMethods second (sloStart ++ rest) := by
    intro first second
    unfold literalMethods
    rw [List.filter_append, List.flatMap_append]
  unfold appRoutes
  rw [both, both, nothing _ before_elsewhere, nothing _ after_elsewhere, List.nil_append,
    List.append_nil]

theorem firstMatch_app : (appRoutes.filter Route.isParameterized).find?
      (fun route => (route.pattern.params (sloStart ++ rest)).isSome) =
    (sloRoutes.filter Route.isParameterized).find? fun route =>
      (route.pattern.params (sloStart ++ rest)).isSome := by
  have nothing : forall routes : List Route, Elsewhere routes ->
      (routes.filter Route.isParameterized).find?
        (fun route => (route.pattern.params (sloStart ++ rest)).isSome) = none := by
    intro routes elsewhere
    rw [List.find?_eq_none]
    intro route member
    have listed := (List.mem_filter.mp member).1
    rw [Route.params_elsewhere (elsewhere route listed)]
    exact Bool.false_ne_true
  unfold appRoutes
  rw [List.filter_append, List.filter_append, List.find?_append, List.find?_append,
    nothing _ before_elsewhere, nothing _ after_elsewhere, Option.none_or, Option.or_none]

end Router

theorem validate_letters : "validate".toList = ['v', 'a', 'l', 'i', 'd', 'a', 't', 'e'] :=
  String.toList_ofList

theorem test_letters : "test".toList = ['t', 'e', 's', 't'] :=
  String.toList_ofList

theorem tagKeys_letters : "tag-keys".toList = ['t', 'a', 'g', '-', 'k', 'e', 'y', 's'] :=
  String.toList_ofList

theorem tagValues_letters :
    "tag-values".toList = ['t', 'a', 'g', '-', 'v', 'a', 'l', 'u', 'e', 's'] :=
  String.toList_ofList

theorem collection_letters : "/slo-definitions".toList = sloLetters.dropLast :=
  String.toList_ofList

theorem versionsEnd_letters : versionsEnd = ['/', 'v', 'e', 'r', 's', 'i', 'o', 'n', 's'] :=
  String.toList_ofList

theorem reservedNames_nodup : reservedNames.Nodup := by
  unfold reservedNames
  rw [validate_letters, test_letters, tagKeys_letters, tagValues_letters]
  decide

theorem reserved_not_versions : forall word, word ∈ reservedNames -> ¬ versionsEnd <:+ word := by
  unfold reservedNames
  rw [validate_letters, test_letters, tagKeys_letters, tagValues_letters, versionsEnd_letters]
  decide

theorem compilePath_ofList (letters : List Char) :
    compilePath (String.ofList letters) = compileLetters letters := by
  unfold compilePath
  rw [String.toList_ofList]

theorem Route.isParameterized_ofList {route : Route} (letters : List Char)
    (same : route.path = String.ofList letters) :
    route.isParameterized = letters.contains '{' := by
  unfold Route.isParameterized
  rw [same, String.toList_ofList]

theorem pattern_collection : compilePath "/slo-definitions" = [.text "/slo-definitions".toList] := by
  rw [collection_letters]
  exact compilePath_ofList _

theorem pattern_tagKeys :
    compilePath "/slo-definitions/tag-keys" = [.text (sloStart ++ "tag-keys".toList)] := by
  rw [sloStart_eq, tagKeys_letters]
  exact compilePath_ofList _

theorem pattern_tagValues :
    compilePath "/slo-definitions/tag-values" = [.text (sloStart ++ "tag-values".toList)] := by
  rw [sloStart_eq, tagValues_letters]
  exact compilePath_ofList _

theorem pattern_versions : compilePath "/slo-definitions/{name:path}/versions" =
    [.text sloStart, .rest "name", .text versionsEnd] := by
  rw [sloStart_eq, versionsEnd_letters]
  exact compilePath_ofList _

theorem pattern_definition :
    compilePath "/slo-definitions/{name:path}" = [.text sloStart, .rest "name"] := by
  rw [sloStart_eq]
  exact compilePath_ofList _

section Paths

variable (rest : List Char)

theorem collection_ne : sloStart ++ rest ≠ "/slo-definitions".toList := by
  intro same
  have lengths := congrArg List.length same
  have start : sloStart.length = "/slo-definitions".toList.length + 1 := by
    rw [sloStart_eq, collection_letters]
    rfl
  rw [List.length_append] at lengths
  omega

theorem params_collection : params [.text "/slo-definitions".toList] (sloStart ++ rest) = none := by
  rw [params_literal, if_neg (collection_ne rest)]

theorem params_word (word : List Char) :
    params [.text (sloStart ++ word)] (sloStart ++ rest) = if rest = word then some [] else none := by
  rw [params_literal]
  simp only [List.append_cancel_left_eq]

theorem params_versions : params [.text sloStart, .rest "name", .text versionsEnd] (sloStart ++ rest) =
    if versionsEnd <:+ rest then some [("name", rest.take (rest.length - versionsEnd.length))]
    else none := by
  rw [params_text_append, params_rest_text]

theorem params_definition :
    params [.text sloStart, .rest "name"] (sloStart ++ rest) = some [("name", rest)] := by
  rw [params_text_append, params_rest]

theorem findSome_delete : sloRoutes.findSome? (fun route => route.takes .delete (sloStart ++ rest)) =
    some (.handled "delete_slo_definition" [("name", rest)]) := by
  simp only [sloRoutes, sloLiteralRoutes, sloNamedRoutes, List.findSome?_append, List.findSome?_nil,
    List.findSome?_cons, Route.takes, Route.pattern,
    List.mem_singleton, reduceCtorEq, if_false, if_true, pattern_definition, params_definition,
    Option.map_some, Option.none_or]

theorem findSome_get : sloRoutes.findSome? (fun route => route.takes .get (sloStart ++ rest)) =
    some (if rest = "tag-keys".toList then .handled "get_slo_tag_keys" []
      else if rest = "tag-values".toList then .handled "get_slo_tag_values" []
      else if versionsEnd <:+ rest then
        .handled "list_slo_versions" [("name", rest.take (rest.length - versionsEnd.length))]
      else .handled "get_slo_definition" [("name", rest)]) := by
  simp only [sloRoutes, sloLiteralRoutes, sloNamedRoutes, List.findSome?_append, List.findSome?_nil,
    List.findSome?_cons, Route.takes, Route.pattern,
    List.mem_singleton, reduceCtorEq, if_false, if_true, pattern_collection, pattern_tagKeys,
    pattern_tagValues, pattern_versions, pattern_definition, params_collection, params_word,
    params_versions, params_definition, Option.map_none, Option.map_some]
  by_cases keys : rest = "tag-keys".toList
  · simp only [if_pos keys, Option.map_some, Option.some_or]
  · by_cases values : rest = "tag-values".toList
    · simp only [if_neg keys, if_pos values, Option.map_none, Option.map_some, Option.some_or]
    · by_cases ends : versionsEnd <:+ rest
      · simp only [if_neg keys, if_neg values, if_pos ends, Option.map_none, Option.map_some,
          Option.none_or]
      · simp only [if_neg keys, if_neg values, if_neg ends, Option.map_none, Option.none_or]

theorem sloLiteralRoutes_literal :
    forall route, route ∈ sloLiteralRoutes -> route.isParameterized = false := by
  simp only [sloLiteralRoutes, List.forall_mem_cons]
  repeat' apply And.intro
  all_goals first
    | exact (Route.isParameterized_ofList _ rfl).trans (by decide)
    | exact fun _ impossible => absurd impossible List.not_mem_nil

theorem sloNamedRoutes_parameterized :
    forall route, route ∈ sloNamedRoutes -> route.isParameterized = true := by
  simp only [sloNamedRoutes, List.forall_mem_cons]
  repeat' apply And.intro
  all_goals first
    | exact (Route.isParameterized_ofList _ rfl).trans (by decide)
    | exact fun _ impossible => absurd impossible List.not_mem_nil

theorem sloRoutes_literal :
    sloRoutes.filter (fun route => !route.isParameterized) = sloLiteralRoutes := by
  unfold sloRoutes
  rw [List.filter_append, List.filter_eq_self.mpr, List.filter_eq_nil_iff.mpr, List.append_nil]
  · intro route member
    rw [sloNamedRoutes_parameterized route member]
    exact Bool.false_ne_true
  · intro route member
    rw [sloLiteralRoutes_literal route member]
    rfl

theorem sloRoutes_parameterized : sloRoutes.filter Route.isParameterized = sloNamedRoutes := by
  unfold sloRoutes
  rw [List.filter_append, List.filter_eq_nil_iff.mpr, List.filter_eq_self.mpr, List.nil_append]
  · exact sloNamedRoutes_parameterized
  · intro route member
    rw [sloLiteralRoutes_literal route member]
    exact Bool.false_ne_true

theorem path_words : "/slo-definitions/validate".toList = sloStart ++ "validate".toList ∧
    "/slo-definitions/test".toList = sloStart ++ "test".toList ∧
    "/slo-definitions/tag-keys".toList = sloStart ++ "tag-keys".toList ∧
    "/slo-definitions/tag-values".toList = sloStart ++ "tag-values".toList := by
  rw [sloStart_eq, validate_letters, test_letters, tagKeys_letters, tagValues_letters]
  exact ⟨String.toList_ofList, String.toList_ofList, String.toList_ofList, String.toList_ofList⟩

theorem diverge_self (letters : List Char) : diverge letters letters = false := by
  induction letters with
  | nil => rfl
  | cons letter letters ih =>
      unfold diverge
      rw [if_pos rfl]
      exact ih

theorem samePattern_app (parts : PathPattern) :
    (appRoutes.filter Route.isParameterized).filter
        (fun route => route.pattern = .text sloStart :: parts) =
      (sloRoutes.filter Route.isParameterized).filter fun route =>
        route.pattern = .text sloStart :: parts := by
  have nothing : forall routes : List Route, Elsewhere routes ->
      (routes.filter Route.isParameterized).filter
        (fun route => route.pattern = .text sloStart :: parts) = [] := by
    intro routes elsewhere
    rw [List.filter_eq_nil_iff]
    intro route member same
    have apart := elsewhere route (List.mem_filter.mp member).1
    have started := (Bool.and_eq_true_iff.mp apart).2
    rw [show compileLetters route.path.toList = _ from of_decide_eq_true same] at started
    dsimp only at started
    rw [diverge_self] at started
    cases started
  unfold appRoutes
  rw [List.filter_append, List.filter_append, List.filter_append, List.filter_append,
    nothing _ before_elsewhere, nothing _ after_elsewhere, List.nil_append, List.append_nil]

theorem methods_versions : ((appRoutes.filter Route.isParameterized).filter fun route =>
    route.pattern = [.text sloStart, .rest "name", .text versionsEnd]).flatMap (·.methods) =
      [.get] := by
  rw [samePattern_app, sloRoutes_parameterized]
  simp only [sloNamedRoutes, List.filter_cons, List.filter_nil, Route.pattern, pattern_versions,
    pattern_definition]
  simp

theorem methods_definition : ((appRoutes.filter Route.isParameterized).filter fun route =>
    route.pattern = [.text sloStart, .rest "name"]).flatMap (·.methods) = [.get, .delete] := by
  rw [samePattern_app, sloRoutes_parameterized]
  simp only [sloNamedRoutes, List.filter_cons, List.filter_nil, Route.pattern, pattern_versions,
    pattern_definition]
  simp

theorem literalMethods_slo : literalMethods sloRoutes (sloStart ++ rest) =
    if rest = "validate".toList then [.post]
    else if rest = "test".toList then [.post]
    else if rest = "tag-keys".toList then [.get]
    else if rest = "tag-values".toList then [.get] else [] := by
  have literal : literalMethods sloRoutes (sloStart ++ rest) =
      ((sloRoutes.filter fun route => !route.isParameterized).filter fun route =>
        route.path.toList = sloStart ++ rest).flatMap (·.methods) := by
    rw [List.filter_filter]
    unfold literalMethods
    simp only [Bool.and_comm]
  have collection := (collection_ne rest).symm
  rcases path_words with ⟨validate, test, keys, values⟩
  rw [literal, sloRoutes_literal]
  simp only [sloLiteralRoutes, List.filter_cons, List.filter_nil, validate, test, keys, values,
    decide_eq_false collection, Bool.false_eq_true, if_false, List.append_cancel_left_eq,
    decide_eq_true_eq, eq_comm (b := rest)]
  have distinct := reservedNames_nodup
  simp only [reservedNames, List.nodup_cons, List.mem_cons, List.not_mem_nil, or_false, not_or,
    not_false_eq_true, List.nodup_nil, and_true] at distinct
  rcases distinct with ⟨⟨validateTest, validateKeys, validateValues⟩, ⟨testKeys, testValues⟩, keysValues⟩
  by_cases isValidate : rest = "validate".toList
  · subst isValidate
    simp only [if_true, validateTest, validateKeys, validateValues, if_false, List.flatMap_cons,
      List.flatMap_nil, List.append_nil]
  by_cases isTest : rest = "test".toList
  · subst isTest
    simp only [if_true, isValidate, testKeys, testValues, if_false, List.flatMap_cons,
      List.flatMap_nil, List.append_nil]
  by_cases isKeys : rest = "tag-keys".toList
  · subst isKeys
    simp only [if_true, isValidate, isTest, keysValues, if_false, List.flatMap_cons,
      List.flatMap_nil, List.append_nil]
  by_cases isValues : rest = "tag-values".toList
  · subst isValues
    simp only [if_true, isValidate, isTest, isKeys, if_false, List.flatMap_cons,
      List.flatMap_nil, List.append_nil]
  · simp only [if_neg isValidate, if_neg isTest, if_neg isKeys, if_neg isValues, List.flatMap_nil]

theorem allowed_app : allowedMethodsForPath appRoutes (sloStart ++ rest) =
    some (if rest = "validate".toList then [.post]
      else if rest = "test".toList then [.post]
      else if rest = "tag-keys".toList then [.get]
      else if rest = "tag-values".toList then [.get]
      else if versionsEnd <:+ rest then [.get] else [.get, .delete]) := by
  have parameterized : ((appRoutes.filter Route.isParameterized).find?
      fun route => (route.pattern.params (sloStart ++ rest)).isSome).map (fun first =>
        ((appRoutes.filter Route.isParameterized).filter fun route =>
          route.pattern = first.pattern).flatMap (·.methods)) =
      some (if versionsEnd <:+ rest then [.get] else [.get, .delete]) := by
    rw [firstMatch_app, sloRoutes_parameterized]
    simp only [sloNamedRoutes, List.find?_cons, Route.pattern, pattern_versions, pattern_definition, params_versions,
      params_definition]
    by_cases ends : versionsEnd <:+ rest
    · simp only [if_pos ends, Option.isSome_some, Option.map_some, pattern_versions]
      exact congrArg some methods_versions
    · simp only [if_neg ends, Option.isSome_none, Option.isSome_some, Option.map_some,
        pattern_definition]
      exact congrArg some methods_definition
  unfold allowedMethodsForPath
  rw [literalMethods_app, literalMethods_slo]
  dsimp only
  rw [parameterized]
  split
  · rfl
  split
  · rfl
  split
  · rfl
  split <;> rfl

end Paths

section Steps

variable {routes : List Route} {method : Method} {path : List Char} {answer : Answer}
  {allowed : List Method}

theorem dispatch_of_takes
    (takes : (routes.findSome? fun route => route.takes method path) = some answer) :
    dispatch routes method path = answer := by
  unfold dispatch
  rw [takes]

theorem receive_of_mem (methods : allowedMethodsForPath routes path = some allowed)
    (member : method ∈ allowed) : receive routes method path = dispatch routes method path := by
  unfold receive
  rw [methods]
  exact if_pos member

theorem receive_of_not_mem (methods : allowedMethodsForPath routes path = some allowed)
    (absent : method ∉ allowed) : receive routes method path = .methodNotAllowed := by
  unfold receive
  rw [methods]
  exact if_neg absent

end Steps

theorem receive_get (rest : List Char) :
    receive appRoutes .get (sloStart ++ rest) = getAnswer rest := by
  unfold getAnswer
  have methods := allowed_app rest
  have routed := dispatch_of_takes ((findSome_app .get rest).trans (findSome_get rest))
  by_cases isValidate : rest = "validate".toList
  · rw [if_pos isValidate] at methods
    rw [if_pos (Or.inl isValidate)]
    exact receive_of_not_mem methods (by decide)
  by_cases isTest : rest = "test".toList
  · rw [if_neg isValidate, if_pos isTest] at methods
    rw [if_pos (Or.inr isTest)]
    exact receive_of_not_mem methods (by decide)
  rw [if_neg isValidate, if_neg isTest] at methods
  rw [if_neg (not_or.mpr ⟨isValidate, isTest⟩), <- routed]
  refine receive_of_mem methods ?_
  split
  · exact List.mem_singleton_self _
  split
  · exact List.mem_singleton_self _
  split
  · exact List.mem_singleton_self _
  · exact List.mem_cons_self

theorem receive_delete (rest : List Char) :
    receive appRoutes .delete (sloStart ++ rest) = deleteAnswer rest := by
  unfold deleteAnswer
  have methods := allowed_app rest
  have routed := dispatch_of_takes ((findSome_app .delete rest).trans (findSome_delete rest))
  by_cases shadowed : rest ∈ reservedNames ∨ versionsEnd <:+ rest
  · rw [if_pos shadowed]
    refine receive_of_not_mem methods ?_
    simp only [reservedNames, List.mem_cons, List.not_mem_nil, or_false] at shadowed
    split
    · decide
    split
    · decide
    split
    · decide
    split
    · decide
    rename_i isValidate isTest isKeys isValues
    rw [if_pos (shadowed.resolve_left (not_or.mpr ⟨isValidate, not_or.mpr ⟨isTest,
      not_or.mpr ⟨isKeys, isValues⟩⟩⟩))]
    decide
  · have parts := not_or.mp shadowed
    simp only [reservedNames, List.mem_cons, List.not_mem_nil, or_false, not_or] at parts
    rcases parts with ⟨⟨isValidate, isTest, isKeys, isValues⟩, ends⟩
    rw [if_neg isValidate, if_neg isTest, if_neg isKeys, if_neg isValues, if_neg ends] at methods
    rw [if_neg shadowed, <- routed]
    exact receive_of_mem methods (by decide)

theorem sloStart_plain : '%' ∉ sloStart := by
  rw [sloStart_eq]
  decide

theorem versionsEnd_plain : '%' ∉ versionsEnd := by
  rw [versionsEnd_letters]
  decide

theorem decode_definitionPath (name : String) :
    PercentCoding.decode (definitionPath name) = some (sloStart ++ name.toList) := by
  have decoded := PercentCoding.decode_encode sloStart name.toList [] sloStart_plain List.not_mem_nil
  rw [List.append_nil, List.append_nil] at decoded
  exact decoded

theorem decode_versionsPath (name : String) :
    PercentCoding.decode (versionsPath name) = some (sloStart ++ (name.toList ++ versionsEnd)) := by
  have decoded := PercentCoding.decode_encode sloStart name.toList versionsEnd sloStart_plain
    versionsEnd_plain
  rw [List.append_assoc sloStart name.toList] at decoded
  exact decoded

theorem reaches_iff {method : Method} {sent path : List Char} {endpoint name : String}
    (decoded : PercentCoding.decode sent = some path) :
    Reaches method sent endpoint name ↔
      receive appRoutes method path = .handled endpoint [("name", name.toList)] := by
  unfold Reaches
  rw [decoded]
  constructor
  · rintro ⟨_, same, received⟩
    cases same
    exact received
  · intro received
    exact ⟨path, rfl, received⟩

/-- The definition of a name is reached by `GET` unless another route takes its path. -/
theorem get_reaches_iff (name : String) :
    Reaches .get (definitionPath name) "get_slo_definition" name ↔ ¬ Shadowed name := by
  rw [reaches_iff (decode_definitionPath name), receive_get]
  unfold Shadowed reservedNames getAnswer
  simp only [List.mem_cons, List.not_mem_nil, or_false, not_or]
  constructor
  · intro received
    split at received
    · cases received
    rename_i neither
    split at received
    · exact absurd (Answer.handled.inj received).1 (by decide)
    split at received
    · exact absurd (Answer.handled.inj received).1 (by decide)
    split at received
    · exact absurd (Answer.handled.inj received).1 (by decide)
    rename_i isKeys isValues ends
    exact ⟨⟨(not_or.mp neither).1, (not_or.mp neither).2, isKeys, isValues⟩, ends⟩
  · rintro ⟨⟨isValidate, isTest, isKeys, isValues⟩, ends⟩
    rw [if_neg (not_or.mpr ⟨isValidate, isTest⟩), if_neg isKeys, if_neg isValues, if_neg ends]

theorem delete_reaches_iff (name : String) :
    Reaches .delete (definitionPath name) "delete_slo_definition" name ↔ ¬ Shadowed name := by
  rw [reaches_iff (decode_definitionPath name), receive_delete]
  unfold Shadowed deleteAnswer
  constructor
  · intro received shadowed
    rw [if_pos shadowed] at received
    cases received
  · intro free
    rw [if_neg free]

theorem versions_reaches (name : String) :
    Reaches .get (versionsPath name) "list_slo_versions" name := by
  have ends : versionsEnd <:+ name.toList ++ versionsEnd := List.suffix_append _ _
  have unreserved := mt (reserved_not_versions (name.toList ++ versionsEnd)) (not_not_intro ends)
  simp only [reservedNames, List.mem_cons, List.not_mem_nil, or_false, not_or] at unreserved
  rcases unreserved with ⟨isValidate, isTest, isKeys, isValues⟩
  rw [reaches_iff (decode_versionsPath name), receive_get, getAnswer,
    if_neg (not_or.mpr ⟨isValidate, isTest⟩),
    if_neg isKeys, if_neg isValues, if_pos ends, List.length_append, Nat.add_sub_cancel,
    List.take_left']
  rfl

theorem answerTo_definitionPath (name : String) (method : Method) :
    answerTo method (definitionPath name) =
      some (receive appRoutes method (sloStart ++ name.toList)) := by
  unfold answerTo
  rw [decode_definitionPath, Option.map_some]

/-- A name is addressed by its own path unless another route takes it, in which case that route
or a 405 answers, and its versions are addressed whatever it is. -/
theorem sloName_addressable_iff (name : String) :
    (Reaches .get (definitionPath name) "get_slo_definition" name ↔ ¬ Shadowed name) ∧
      (Reaches .delete (definitionPath name) "delete_slo_definition" name ↔ ¬ Shadowed name) ∧
      Reaches .get (versionsPath name) "list_slo_versions" name ∧
      answerTo .get (definitionPath name) = some (getAnswer name.toList) ∧
      answerTo .delete (definitionPath name) = some (deleteAnswer name.toList) := by
  refine ⟨get_reaches_iff name, delete_reaches_iff name, versions_reaches name, ?_, ?_⟩
  · rw [answerTo_definitionPath, receive_get]
  · rw [answerTo_definitionPath, receive_delete]

def emptyRegistry : Store.Database :=
  ⟨.empty, .empty, .empty, .empty, .empty, .empty⟩

/-- A name that the registry takes, and whose path is that of another route. -/
theorem validate_notAddressable :
    (Registry.createSloDefinition emptyRegistry { name := "validate", objectives := [] } 1).isOk =
        true ∧
      ¬ Reaches .get (definitionPath "validate") "get_slo_definition" "validate" ∧
      ¬ Reaches .delete (definitionPath "validate") "delete_slo_definition" "validate" := by
  have shadowed : Shadowed "validate" := Or.inl List.mem_cons_self
  refine ⟨rfl, ?_, ?_⟩
  · rw [get_reaches_iff]
    exact not_not_intro shadowed
  · rw [delete_reaches_iff]
    exact not_not_intro shadowed

end Http
end Tropek
