import Taskflow.Text.Basic
/-!
Steps by keyword, for a task text no strategy could read.
-/

namespace Taskflow.Steps

open Text

/-- The steps of a Compose deployment. -/
def composeSteps : List String :=
  ["Verify docker-compose.yml and .env are up to date",
   "Build images: docker-compose build --no-cache",
   "Start services: docker-compose up -d --remove-orphans",
   "Check service health: docker-compose ps && docker-compose logs --tail=50",
   "Run post-deploy script: chmod +x ./scripts/verify-services.sh && ./scripts/verify-services.sh",
   "Validate endpoints: curl -f http://localhost:8080/health || echo 'Health endpoint check'",
   "If failed, rollback: docker-compose down && echo 'DEPLOYMENT FAILED - ROLLBACK COMPLETED'"]

/-- The steps of a Kubernetes deployment. -/
def clusterSteps : List String :=
  ["Apply Kubernetes manifests: kubectl apply -f k8s/",
   "Check pod status: kubectl get pods -w",
   "Verify service endpoints: kubectl get services",
   "Check deployment rollout: kubectl rollout status deployment/app",
   "Run health checks: kubectl exec -it pod -- curl localhost:8080/health",
   "If failed, rollback: kubectl rollout undo deployment/app"]

/-- The steps of a production deployment. -/
def productionSteps : List String :=
  ["Backup current production state",
   "Run pre-deployment checks and validations",
   "Deploy to staging environment first",
   "Execute production deployment",
   "Run post-deployment verification tests",
   "Monitor system health and performance",
   "If issues detected, execute rollback procedure"]

def hasAny (t : String) (ws : List String) : Bool := ws.any (has t)

/-- The canned steps of the first keyword rule that fires, if any. -/
def keywordSteps (t : String) : List String :=
  if has t "database" ∧ has t "migration" then
    ["Design migration system architecture", "Implement migration execution logic",
     "Create rollback mechanism", "Add backup functionality", "Set up migration validation"]
  else if has t "pipeline" ∧ (has t "processing" ∨ has t "validation") then
    ["Design data processing architecture", "Implement validation pipeline",
     "Set up transformation pipeline", "Add parallel processing logic", "Configure logging system"]
  else if hasAny t ["fix", "repair", "ayusin"] then
    if has t "typo" ∨ has t "documentation" then ["Fix the typo in documentation"]
    else ["Fix the identified issue"]
  else if hasAny t ["update", "modify", "change", "baguhin"] then
    if has t "comment" then ["Update the comment in the file"] else ["Update the specified component"]
  else if hasAny t ["remove", "delete", "alisin"] then
    if has t "import" then ["Remove unused import statements"] else ["Remove the specified items"]
  else if has t "docker" ∨ has t "compose" then composeSteps
  else if hasAny t ["create", "gumawa", "make", "build"] then
    if has t "pipeline" ∧ has t "ci/cd" then
      ["Create CI/CD pipeline configuration", "Set up automated testing stage",
       "Configure deployment stage", "Add conditional logic for test results"]
    else if has t "authentication" ∨ has t "login" then
      ["Design authentication database schema", "Create user registration endpoint",
       "Implement login validation logic", "Set up password reset functionality",
       "Add session management"]
    else if has t "api" ∧ has t "endpoint" then
      ["Design API endpoint structure", "Implement request validation", "Add error handling",
       "Create response formatting"]
    else ["Create the required component"]
  else if hasAny t ["implement", "develop"] then ["Implement the required functionality"]
  else if hasAny t ["test", "subukan", "check", "verify"] then ["Test the implementation"]
  else if hasAny t ["deploy", "release"] then
    if has t "docker" ∨ has t "compose" then composeSteps
    else if has t "kubernetes" ∨ has t "k8s" then clusterSteps
    else if has t "production" ∨ has t "prod" then productionSteps
    else ["Deploy the changes"]
  else []

/-- The fallback steps of a task: a keyword rule's, else Compose's, else one generic step that
quotes the first fifty characters of a task of more than two words. -/
def fallbackSteps (task : String) : List String :=
  let t := lower task
  match keywordSteps t with
  | [] =>
    if has t "docker" ∨ has t "compose" then composeSteps
    else if (words task).length > 2 then [s!"Complete the task: {take task 50}..."]
    else ["Complete the specified task"]
  | steps => steps

end Taskflow.Steps
