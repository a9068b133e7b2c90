import Tropek.Library.PathPatterns
import Tropek.Library.PercentCoding

namespace Tropek
namespace Http

open Library

/-!
# Routes

A request is matched twice.  A middleware first asks which methods its path takes: those of
the literal route with this path, or those of the parameterised routes that share the first
pattern to match.  The router then takes the first route whose pattern and method both
match.  The names of SLOs share the paths below `/slo-definitions/` with four literal
routes and with the list of versions.

The path is the decoded one, and `{name:path}` takes any text.
-/

inductive Method where
  | get
  | head
  | post
  | put
  | patch
  | delete
deriving DecidableEq, Repr

structure Route where
  methods : List Method
  path : String
  endpoint : String
deriving DecidableEq, Repr

def docsRoutes : List Route := [
  ⟨[.get, .head], "/openapi.json", "openapi"⟩,
  ⟨[.get, .head], "/docs", "swagger_ui_html"⟩,
  ⟨[.get, .head], "/docs/oauth2-redirect", "swagger_ui_redirect"⟩,
  ⟨[.get, .head], "/redoc", "redoc_html"⟩]

def assetMetaRoutes : List Route := [
  ⟨[.post], "/assets/{asset_id}/meta/snapshots", "create_snapshot"⟩,
  ⟨[.get], "/assets/{asset_id}/meta/snapshots", "list_snapshots"⟩,
  ⟨[.get], "/assets/{asset_id}/meta/snapshots/{snapshot_id}", "get_snapshot_detail"⟩,
  ⟨[.delete], "/assets/{asset_id}/meta/snapshots/{snapshot_id}", "delete_snapshot"⟩,
  ⟨[.get], "/assets/{asset_id}/meta/timeline", "get_timeline"⟩,
  ⟨[.get], "/assets/{asset_id}/meta/timeline/summary", "get_timeline_summary"⟩]

def assetsRoutes : List Route := [
  ⟨[.get], "/asset-types", "list_asset_types"⟩,
  ⟨[.post], "/asset-types", "create_asset_type"⟩,
  ⟨[.patch], "/asset-types/{name}/set-default", "set_default_asset_type"⟩,
  ⟨[.delete], "/asset-types/{name}", "delete_asset_type"⟩,
  ⟨[.patch], "/asset-types/{name}", "update_asset_type"⟩,
  ⟨[.get], "/assets", "list_assets"⟩,
  ⟨[.post], "/assets", "create_asset"⟩,
  ⟨[.get], "/assets/tag-keys", "list_tag_keys"⟩,
  ⟨[.get], "/assets/tag-values", "list_tag_values"⟩,
  ⟨[.get], "/assets/{name}", "get_asset"⟩,
  ⟨[.patch], "/assets/{name}", "update_asset"⟩,
  ⟨[.delete], "/assets/{name}", "delete_asset"⟩,
  ⟨[.get], "/asset-groups", "list_asset_groups"⟩,
  ⟨[.get], "/asset-groups/tree", "get_asset_group_tree"⟩,
  ⟨[.post], "/asset-groups", "create_asset_group"⟩,
  ⟨[.get], "/asset-groups/{name}", "get_asset_group"⟩,
  ⟨[.patch], "/asset-groups/{name}", "update_asset_group"⟩,
  ⟨[.delete], "/asset-groups/{name}", "delete_asset_group"⟩,
  ⟨[.post], "/asset-groups/{name}/members", "add_group_member"⟩,
  ⟨[.delete], "/asset-groups/{name}/members/{asset_id}", "remove_group_member"⟩,
  ⟨[.post], "/asset-groups/{name}/subgroups", "add_group_subgroup"⟩,
  ⟨[.delete], "/asset-groups/{name}/subgroups/{child_group_id}", "remove_group_subgroup"⟩]

def datasourceRoutes : List Route := [
  ⟨[.get], "/datasources", "list_datasources"⟩,
  ⟨[.post], "/datasources", "create_datasource"⟩,
  ⟨[.get], "/datasources/tag-keys", "get_tag_keys"⟩,
  ⟨[.get], "/datasources/tag-values", "get_tag_values"⟩,
  ⟨[.get], "/datasources/{name}", "get_datasource"⟩,
  ⟨[.patch], "/datasources/{name}", "update_datasource"⟩,
  ⟨[.delete], "/datasources/{name}", "delete_datasource"⟩]

def sliRoutes : List Route := [
  ⟨[.get], "/sli-definitions", "list_sli_definitions"⟩,
  ⟨[.post], "/sli-definitions", "create_sli_definition"⟩,
  ⟨[.get], "/sli-definitions/tag-keys", "get_sli_tag_keys"⟩,
  ⟨[.get], "/sli-definitions/tag-values", "get_sli_tag_values"⟩,
  ⟨[.get], "/sli-definitions/{name}", "get_sli_definition"⟩,
  ⟨[.get], "/sli-definitions/{name}/versions", "list_sli_versions"⟩,
  ⟨[.delete], "/sli-definitions/{name}", "delete_sli_definition"⟩]

def sloLiteralRoutes : List Route := [
  ⟨[.get], "/slo-definitions", "list_slo_definitions"⟩,
  ⟨[.post], "/slo-definitions", "create_slo_definition"⟩,
  ⟨[.post], "/slo-definitions/validate", "validate_slo"⟩,
  ⟨[.post], "/slo-definitions/test", "test_slo"⟩,
  ⟨[.get], "/slo-definitions/tag-keys", "get_slo_tag_keys"⟩,
  ⟨[.get], "/slo-definitions/tag-values", "get_slo_tag_values"⟩]

def sloNamedRoutes : List Route := [
  ⟨[.get], "/slo-definitions/{name:path}/versions", "list_slo_versions"⟩,
  ⟨[.get], "/slo-definitions/{name:path}", "get_slo_definition"⟩,
  ⟨[.delete], "/slo-definitions/{name:path}", "delete_slo_definition"⟩]

def sloRoutes : List Route :=
  sloLiteralRoutes ++ sloNamedRoutes

def sloGroupsRoutes : List Route := [
  ⟨[.post], "/slo-groups", "create_slo_group"⟩,
  ⟨[.get], "/slo-groups", "list_slo_groups"⟩,
  ⟨[.get], "/slo-groups/{name}", "get_slo_group"⟩,
  ⟨[.put], "/slo-groups/{name}", "update_slo_group"⟩,
  ⟨[.delete], "/slo-groups/{name}", "delete_slo_group"⟩,
  ⟨[.post], "/slo-groups/{name}/extract", "extract_slo"⟩]

def qualityGateRoutes : List Route := [
  ⟨[.post], "/evaluations", "trigger_evaluation"⟩,
  ⟨[.post], "/evaluations/batch", "trigger_evaluation_batch"⟩,
  ⟨[.get], "/evaluations", "list_evaluations"⟩,
  ⟨[.get], "/evaluations/heatmap", "get_grouped_metric_heatmap_new"⟩,
  ⟨[.delete], "/evaluations/heatmap/cache", "flush_heatmap_cache"⟩,
  ⟨[.get], "/evaluations/heatmap/by-metric", "get_metric_heatmap_new"⟩,
  ⟨[.post], "/evaluations/re-evaluate/from-date", "re_evaluate_from_date_endpoint"⟩,
  ⟨[.post], "/evaluations/re-evaluate/from-baseline", "re_evaluate_from_baseline_endpoint"⟩,
  ⟨[.post], "/evaluations/re-evaluate/from-evaluation/{evaluation_id}",
    "re_evaluate_from_evaluation_endpoint"⟩,
  ⟨[.get], "/evaluations/names", "list_evaluation_names"⟩,
  ⟨[.get], "/evaluations/trend-annotations", "get_trend_annotations"⟩,
  ⟨[.get], "/evaluations/column-annotations", "get_column_annotations"⟩,
  ⟨[.get], "/note-categories", "list_note_categories"⟩,
  ⟨[.post], "/note-categories", "create_note_category"⟩,
  ⟨[.patch], "/note-categories/{category_id}", "update_note_category"⟩,
  ⟨[.delete], "/note-categories/{category_id}", "delete_note_category"⟩,
  ⟨[.get], "/assets/{asset_name}/slos/{slo_name:path}/trend", "get_trend_by_asset_slo"⟩,
  ⟨[.get], "/assets/{asset_name}/slos/{slo_name:path}/trends", "get_slo_trends"⟩,
  ⟨[.get], "/evaluation/{eval_id}/trend", "get_trend_by_evaluation"⟩,
  ⟨[.get], "/evaluation/{eval_id}", "get_evaluation_singular"⟩,
  ⟨[.patch], "/evaluations/invalidate", "invalidate_evaluations_bulk"⟩,
  ⟨[.patch], "/evaluations/restore", "restore_evaluations_bulk"⟩,
  ⟨[.patch], "/evaluations/override-status", "override_status_evaluations_bulk"⟩,
  ⟨[.patch], "/evaluations/restore-override", "restore_override_evaluations_bulk"⟩,
  ⟨[.patch], "/evaluations/pin-baseline", "pin_baseline_evaluations_bulk"⟩,
  ⟨[.patch], "/evaluations/unpin-baseline", "unpin_baseline_evaluations_bulk"⟩,
  ⟨[.patch], "/evaluation/{eval_id}/invalidate", "invalidate_evaluation_singular"⟩,
  ⟨[.patch], "/evaluation/{eval_id}/restore", "restore_evaluation_singular"⟩,
  ⟨[.patch], "/evaluation/{eval_id}/pin-baseline", "pin_baseline_singular"⟩,
  ⟨[.patch], "/evaluation/{eval_id}/unpin-baseline", "unpin_baseline_singular"⟩,
  ⟨[.patch], "/evaluation/{eval_id}/override-status", "override_status_singular"⟩,
  ⟨[.patch], "/evaluation/{eval_id}/restore-override", "restore_override_singular"⟩,
  ⟨[.get], "/evaluation/{eval_id}/annotations", "list_annotations_singular"⟩,
  ⟨[.post], "/evaluation/{eval_id}/annotations", "create_annotation_singular"⟩,
  ⟨[.patch], "/evaluation/{eval_id}/annotations/{ann_id}", "update_annotation_singular"⟩,
  ⟨[.post], "/evaluation/{eval_id}/annotations/{ann_id}/hide", "hide_annotation_singular"⟩,
  ⟨[.post], "/evaluation-run/{run_id}/annotations", "create_run_annotation_new"⟩]

def assignmentsRoutes : List Route := [
  ⟨[.get], "/assets/{name}/slo-assignments", "list_asset_slo_assignments"⟩,
  ⟨[.put], "/assets/{name}/slo-definitions/{slo_definition_id}", "put_asset_slo_assignment"⟩,
  ⟨[.delete], "/assets/{name}/slo-definitions/{slo_definition_id}",
    "delete_asset_slo_assignment_by_target"⟩,
  ⟨[.patch], "/assets/{name}/slo-assignments/{assignment_id}", "upgrade_asset_slo_assignment"⟩,
  ⟨[.get], "/asset-groups/{name}/slo-assignments", "list_group_slo_assignments"⟩,
  ⟨[.put], "/asset-groups/{name}/slo-definitions/{slo_definition_id}", "put_group_slo_assignment"⟩,
  ⟨[.delete], "/asset-groups/{name}/slo-definitions/{slo_definition_id}",
    "delete_group_slo_assignment_by_target"⟩,
  ⟨[.get], "/assets/{name}/slo-group-assignments", "list_asset_group_assignments"⟩,
  ⟨[.put], "/assets/{name}/slo-groups/{slo_group_name}", "put_asset_slo_group_assignment"⟩,
  ⟨[.delete], "/assets/{name}/slo-groups/{slo_group_name}",
    "delete_asset_slo_group_assignment_by_target"⟩,
  ⟨[.get], "/asset-groups/{name}/slo-group-assignments", "list_group_group_assignments"⟩,
  ⟨[.put], "/asset-groups/{name}/slo-groups/{slo_group_name}", "put_group_slo_group_assignment"⟩,
  ⟨[.delete], "/asset-groups/{name}/slo-groups/{slo_group_name}",
    "delete_group_slo_group_assignment_by_target"⟩]

def changePointsRoutes : List Route := [
  ⟨[.get], "/change-points", "list_change_points"⟩,
  ⟨[.patch], "/change-points/bulk-triage", "bulk_triage"⟩,
  ⟨[.get], "/change-points/config/{objective_id}", "get_change_point_config"⟩,
  ⟨[.put], "/change-points/config/{objective_id}", "upsert_change_point_config"⟩,
  ⟨[.delete], "/change-points/config/{objective_id}", "delete_change_point_config"⟩,
  ⟨[.get], "/change-points/{change_point_id}", "get_change_point"⟩,
  ⟨[.patch], "/change-points/{change_point_id}", "triage_change_point"⟩]

def configurationRoutes : List Route := [
  ⟨[.get], "/configuration", "list_configuration"⟩,
  ⟨[.get], "/configuration/{name:path}", "get_configuration"⟩,
  ⟨[.put], "/configuration/{name:path}", "update_configuration"⟩]

def displayGroupsRoutes : List Route := [
  ⟨[.get], "/slo-display-groups", "list_display_groups"⟩,
  ⟨[.post], "/slo-display-groups", "create_display_group"⟩,
  ⟨[.delete], "/slo-display-groups/{name}", "delete_display_group"⟩,
  ⟨[.get], "/slo-display-groups/{name}/members", "list_members"⟩,
  ⟨[.post], "/slo-display-groups/{name}/members", "add_member"⟩,
  ⟨[.delete], "/slo-display-groups/{name}/members/{slo_name:path}", "remove_member"⟩]

def mainRoutes : List Route := [
  ⟨[.get], "/health", "health"⟩,
  ⟨[.get], "/config/ui", "ui_config"⟩]

def routesBeforeSlo : List Route :=
  docsRoutes ++ assetMetaRoutes ++ assetsRoutes ++ datasourceRoutes ++ sliRoutes

def routesAfterSlo : List Route :=
  sloGroupsRoutes ++ qualityGateRoutes ++ assignmentsRoutes ++ changePointsRoutes ++
    configurationRoutes ++ displayGroupsRoutes ++ mainRoutes

def appRoutes : List Route :=
  routesBeforeSlo ++ sloRoutes ++ routesAfterSlo

def textPart (letters : List Char) : PathPattern :=
  if letters = [] then [] else [.text letters]

/-- `{name}` or `{name:path}`, between the braces. -/
def parameterPart (letters : List Char) : PathPart :=
  match letters.splitOn ':' with
  | [name, kind] =>
      if kind = "path".toList then .rest (String.ofList name) else .segment (String.ofList name)
  | _ => .segment (String.ofList letters)

def compileLetters (path : List Char) : PathPattern :=
  match path.splitOn '{' with
  | [] => []
  | start :: pieces => textPart start ++ pieces.flatMap fun piece =>
      match piece.splitOn '}' with
      | [parameter, after] => parameterPart parameter :: textPart after
      | _ => textPart piece

def compilePath (path : String) : PathPattern :=
  compileLetters path.toList

def Route.pattern (route : Route) : PathPattern :=
  compilePath route.path

def Route.isParameterized (route : Route) : Bool :=
  route.path.toList.contains '{'

/-- `_literal_allowed_methods`: routes with one path add up. -/
def literalMethods (routes : List Route) (path : List Char) : List Method :=
  (routes.filter fun route => !route.isParameterized && route.path.toList = path).flatMap (·.methods)

/-- `_allowed_methods_for_path`: the methods of the literal routes with this path, or of all
parameterised routes with the pattern that matches first. -/
def allowedMethodsForPath (routes : List Route) (path : List Char) : Option (List Method) :=
  if literalMethods routes path ≠ [] then some (literalMethods routes path)
  else
    let parameterized := routes.filter Route.isParameterized
    (parameterized.find? fun route => (route.pattern.params path).isSome).map fun first =>
      (parameterized.filter fun route => route.pattern = first.pattern).flatMap (·.methods)

inductive Answer where
  | handled (endpoint : String) (params : List (String × List Char))
  | methodNotAllowed
  | notFound
deriving DecidableEq, Repr

def Route.takes (route : Route) (method : Method) (path : List Char) : Option Answer :=
  if method ∈ route.methods then (route.pattern.params path).map (.handled route.endpoint) else none

/-- The first route that matches in full; a match of the pattern alone is remembered. -/
def dispatch (routes : List Route) (method : Method) (path : List Char) : Answer :=
  match routes.findSome? fun route => route.takes method path with
  | some answer => answer
  | none =>
      if routes.any fun route => (route.pattern.params path).isSome then .methodNotAllowed
      else .notFound

/-- `MethodNotAllowedMiddleware`, and the router behind it. -/
def receive (routes : List Route) (method : Method) (path : List Char) : Answer :=
  match allowedMethodsForPath routes path with
  | none => dispatch routes method path
  | some allowed => if method ∈ allowed then dispatch routes method path else .methodNotAllowed

def sloStart : List Char :=
  "/slo-definitions/".toList

def versionsEnd : List Char :=
  "/versions".toList

/-- `/slo-definitions/${encodeURIComponent(name)}`. -/
def definitionPath (name : String) : List Char :=
  sloStart ++ PercentCoding.encode name.toList

/-- The path of the definition, with `/versions` after it. -/
def versionsPath (name : String) : List Char :=
  definitionPath name ++ versionsEnd

def answerTo (method : Method) (sent : List Char) : Option Answer :=
  (PercentCoding.decode sent).map (receive appRoutes method)

def Reaches (method : Method) (sent : List Char) (endpoint name : String) : Prop :=
  Exists fun path => PercentCoding.decode sent = some path ∧
    receive appRoutes method path = .handled endpoint [("name", name.toList)]

def reservedNames : List (List Char) :=
  ["validate".toList, "test".toList, "tag-keys".toList, "tag-values".toList]

def Shadowed (name : String) : Prop :=
  name.toList ∈ reservedNames ∨ versionsEnd <:+ name.toList

instance (name : String) : Decidable (Shadowed name) :=
  inferInstanceAs (Decidable (_ ∨ _))

/-- What answers a `GET` below the collection.  The literal paths and the lists of versions come
first. -/
def getAnswer (rest : List Char) : Answer :=
  if rest = "validate".toList ∨ rest = "test".toList then .methodNotAllowed
  else if rest = "tag-keys".toList then .handled "get_slo_tag_keys" []
  else if rest = "tag-values".toList then .handled "get_slo_tag_values" []
  else if versionsEnd <:+ rest then
    .handled "list_slo_versions" [("name", rest.take (rest.length - versionsEnd.length))]
  else .handled "get_slo_definition" [("name", rest)]

/-- What answers a `DELETE`. -/
def deleteAnswer (rest : List Char) : Answer :=
  if rest ∈ reservedNames ∨ versionsEnd <:+ rest then .methodNotAllowed
  else .handled "delete_slo_definition" [("name", rest)]

end Http
end Tropek
