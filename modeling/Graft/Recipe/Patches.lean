import Graft.Plan.Basic
import Graft.Recipe.Feature

/-! # The patches of a feature

Where each registration of a feature goes, as patches for the files of a web application.  The
identity of a patch is what tells a later run that its fragment is there already. -/

namespace Graft

/-! ## Files and landmarks -/

def databaseSeeder : Text := "database/seeders/DatabaseSeeder.php"

def appServiceProvider : Text := "app/Providers/AppServiceProvider.php"

def authServiceProvider : Text := "app/Providers/AuthServiceProvider.php"

def webRoutesFile : Text := "routes/web.php"

def apiRoutesFile : Text := "routes/api.php"

/-- The header of the method that seeds the database. -/
def runMethod : Text := "public function run()"

/-- The header of the method that binds services. -/
def registerMethod : Text := "public function register()"

/-- The comment that a fresh seeder carries. -/
def exampleUserFactory : Text := "// \\App\\Models\\User::factory(10)->create();"

/-- The header of the group of authenticated routes. -/
def sanctumGroup : Text := "Route::middleware('auth:sanctum')->group(function () \x7b"

/-- The header of the list of policies. -/
def policiesProperty : Text := "protected $policies = ["

/-! ## Imports -/

/-- The import of a class: after the last import, else after the namespace, else after the opening
tag.  An import or a namespace may take several lines, so the place is after the semicolon that
ends it. -/
def importSpec (className : Text) : Spec :=
  ((Spec.selfIdentified ("use " ++ className ++ ";")).anchoredAt
    (.lastLiteralAfter "\nuse " (some ";"))).anchoredAt
    (.literalAfter "\nnamespace " none (some ";")) |>.anchoredAt
    (.literalAfter "<?php" none none)

namespace Feature

/-- The import of the controller. -/
def controllerImport (feature : Feature) : Spec :=
  importSpec (feature.controllerNamespace ++ "\\" ++ feature.controller)

/-! ## Routes -/

/-- The two files that routes are declared in. -/
inductive RouteFile where
  | web
  | api
  deriving DecidableEq, Repr

/-- The name of a feature's route. -/
def routeName (feature : Feature) : RouteFile → Text
  | .web => feature.kebabName
  | .api => "api." ++ feature.kebabName

/-- The declaration of a feature's route at `path`. -/
def routeDeclaration (feature : Feature) (path : Text) (file : RouteFile) : Text :=
  let controller := feature.controller
  match feature.kind, file with
  | .resource, .web => "Route::resource('" ++ path ++ "', " ++ controller ++ "::class);"
  | .resource, .api => "Route::apiResource('" ++ path ++ "', " ++ controller ++ "::class);"
  | .invokable, _ =>
    "Route::get('/" ++ path ++ "', " ++ controller ++ "::class)->name('" ++
      feature.routeName file ++ "');"
  | .basic, _ =>
    "Route::get('/" ++ path ++ "', [" ++ controller ++ "::class, 'index'])->name('" ++
      feature.routeName file ++ ".index');"

/-- A route is there once both its path and its controller are. -/
def routeIdentity (feature : Feature) (path : Text) : Identity :=
  .containsAll [path, feature.controller ++ "::class"]

/-! ## Patches -/

/-- The call of the feature's seeder. -/
def seederPatches (feature : Feature) : List Patch :=
  let seeder := feature.name ++ "Seeder"
  [{ id := "seeder-call"
     file := databaseSeeder
     spec :=
      ((Spec.ofText ("$this->call(" ++ seeder ++ "::class);") (.contains (seeder ++ "::class"))).anchoredAt
        (.literalBefore exampleUserFactory (some runMethod))).anchoredAt
        (.blockBodyEnd runMethod .brace) }]

/-- The imports of the feature's service and its interface, and the binding of the two. -/
def serviceBindingPatches (feature : Feature) : List Patch :=
  let service := feature.name ++ "Service"
  let interface := service ++ "Interface"
  let home := feature.serviceNamespace
  [{ id := "service-interface-import"
     file := appServiceProvider
     spec := importSpec (home ++ "\\Contracts\\" ++ interface) },
   { id := "service-class-import"
     file := appServiceProvider
     spec := importSpec (home ++ "\\" ++ service) },
   { id := "service-binding"
     file := appServiceProvider
     spec := (Spec.selfIdentified
        ("$this->app->bind(" ++ interface ++ "::class, " ++ service ++ "::class);")).anchoredAt
        (.blockBodyStart registerMethod .brace) }]

/-- The import of the controller and the route, for pages. -/
def webRoutePatches (feature : Feature) : List Patch :=
  [{ id := "web-controller-import", file := webRoutesFile, spec := feature.controllerImport },
   { id := "web-route"
     file := webRoutesFile
     spec :=
      { fragment := [[], feature.routeDeclaration feature.webRoutePath .web]
        identity := feature.routeIdentity feature.webRoutePath
        anchors := [.endOfDocument] } }]

/-- The import of the controller and the route, for programs. -/
def apiRoutePatches (feature : Feature) : List Patch :=
  let path := feature.kebabName.plural
  [{ id := "api-controller-import", file := apiRoutesFile, spec := feature.controllerImport },
   { id := "api-route"
     file := apiRoutesFile
     spec :=
      { fragment := [feature.routeDeclaration path .api]
        identity := feature.routeIdentity path
        anchors := [.blockBodyEnd sanctumGroup .brace, .endOfDocument] } }]

/-- The imports of the model and its policy, and the entry that maps one to the other. -/
def policyPatches (feature : Feature) : List Patch :=
  let mapping := feature.name ++ "::class => " ++ feature.name ++ "Policy::class"
  [{ id := "policy-model-import"
     file := authServiceProvider
     spec := importSpec ("App\\Models\\" ++ feature.name) },
   { id := "policy-import"
     file := authServiceProvider
     spec := importSpec ("App\\Policies\\" ++ feature.name ++ "Policy") },
   { id := "policy-mapping"
     file := authServiceProvider
     spec := (Spec.ofText (mapping ++ ",") (.contains mapping)).anchoredAt
        (.blockBodyStart policiesProperty .bracket) }]

/-- The plan that registers a feature at every point asked for. -/
def plan (feature : Feature) : Plan :=
  let points : List (Bool × List Patch) :=
    [(feature.weavings.seeder, feature.seederPatches),
     (feature.weavings.serviceBinding, feature.serviceBindingPatches),
     (feature.weavings.webRoutes, feature.webRoutePatches),
     (feature.weavings.apiRoutes, feature.apiRoutePatches),
     (feature.weavings.policy, feature.policyPatches)]
  { info :=
      { name := feature.kebabName ++ "-feature"
        description := some ("Registration points for the " ++ feature.name ++ " feature")
        workspaceRelative := true }
    patches := points.flatMap fun (wanted, patches) => if wanted then patches else [] }

end Feature
end Graft
