import Taskflow.Task.Chunk
/-!
Grouping subtasks under headings, and the todo text of a group.
-/

namespace Taskflow.Task

open Text

/-- The heading made from a task: stripped, cut to 47 characters and `...` when longer than 50,
first letter raised. -/
def mainAction (task : String) : String :=
  let s := strip task
  let s := if s.length > 50 then take s 47 ++ "..." else s
  upperFirst s

/-- The heading that a task's words pick for all its subtasks, if any. -/
def headingOf (t : String) : Option String :=
  if has t "docker" ∧ has t "deploy" then some "Deploy core AI services using Docker Compose"
  else if has t "kubernetes" ∨ has t "k8s" then some "Deploy services to Kubernetes cluster"
  else if has t "production" ∧ has t "deploy" then some "Deploy to production environment"
  else if has t "todo" ∧ has t "hierarchical" then some "Enhance TODO Manager with hierarchical support"
  else if has t "ai" ∧ (has t "service" ∨ has t "system") then some "Setup AI services infrastructure"
  else if has t "security" ∧ (has t "harden" ∨ has t "hardening") then some "Apply security hardening measures"
  else if has t "gpu" ∧ (has t "setup" ∨ has t "partition") then some "Configure GPU partitioning and monitoring"
  else if has t "monitoring" ∨ (has t "prometheus" ∧ has t "grafana") then some "Setup monitoring and observability stack"
  else if has t "test" ∧ (has t "e2e" ∨ has t "end-to-end") then some "Execute end-to-end testing pipeline"
  else if has t "backup" ∨ has t "disaster" then some "Configure backup and disaster recovery"
  else none

def isConfig (s : Subtask) : Bool := has (lower s.description) "config"

/-- The groups of a task's subtasks, in order, each with its heading. -/
def groupSubtasks (subtasks : List Subtask) (task : String) : List (String × List Subtask) :=
  match headingOf (lower task) with
  | some h => [(h, subtasks)]
  | none =>
    if subtasks.length > 3 ∧ subtasks.any isConfig then
      let others := subtasks.filter (!isConfig ·)
      [("Configuration and setup tasks", subtasks.filter isConfig)] ++
        (if others.isEmpty then [] else [("Implementation and validation tasks", others)])
    else [(mainAction task, subtasks)]

/-- The shell command a step description suggests, or the empty text. -/
def inferCommand (description : String) : String :=
  let d := lower description
  if has d "verify docker-compose" ∧ has d ".env" then
    "diff docker-compose.yml docker-compose.yml.backup || echo 'Files are different or backup not found'"
  else if has d "build images" ∧ has d "docker-compose build" then "docker-compose build --no-cache"
  else if has d "start services" ∧ has d "docker-compose up" then "docker-compose up -d --remove-orphans"
  else if has d "check service health" ∧ has d "docker-compose" then "docker-compose ps && docker-compose logs --tail=50"
  else if has d "post-deploy script" ∧ has d "verify-services" then
    "chmod +x ./scripts/verify-services.sh && ./scripts/verify-services.sh"
  else if has d "validate endpoints" ∧ has d "curl" then "curl -f http://localhost:8080/health || echo 'Health endpoint check'"
  else if has d "rollback" ∧ has d "docker-compose down" then
    "docker-compose down && echo 'DEPLOYMENT FAILED - ROLLBACK COMPLETED'"
  else if has d "apply kubernetes" ∨ has d "kubectl apply" then "kubectl apply -f k8s/"
  else if has d "check pod status" then "kubectl get pods -w"
  else if has d "verify service endpoints" ∧ has d "kubectl" then "kubectl get services"
  else if has d "deployment rollout" then "kubectl rollout status deployment/app"
  else if has d "health checks" ∧ has d "kubectl exec" then "kubectl exec -it pod -- curl localhost:8080/health"
  else if has d "rollback" ∧ has d "kubectl" then "kubectl rollout undo deployment/app"
  else if has d "security hardening" ∧ has d "script" then "./scripts/security-hardening.sh"
  else if has d "gpu partitioning" ∧ has d "script" then "./scripts/setup-gpu-partitioning.sh"
  else if has d "end-to-end" ∧ has d "test" then "python3 -m pytest tests/e2e/ -v"
  else if has d "resilience validation" then "./scripts/resilience-validation-pipeline.sh"
  else if has d "backup" ∧ has d "script" then "./scripts/backup-restore.sh backup"
  else if has d "commit" ∧ has d "change" then "git add . && git commit -m 'Update: \x7bdescription\x7d'"
  else if has d "edit" ∧ has d "file" then "nano filename.ext  # Edit the specified file"
  else if has d "create" ∧ has d "file" then "touch filename.ext  # Create the specified file"
  else ""

/-- The todo text of a group: the heading, then `    i. description` per subtask, with
`        └── Command: c` under it when a command is inferred. -/
def groupTodoText (heading : String) (descriptions : List String) : String :=
  join "\n" (heading :: descriptions.zipIdx.map fun (d, i) =>
    let c := inferCommand d
    s!"    {i + 1}. {d}" ++ (if c.isEmpty then "" else s!"\n        └── Command: {c}"))

end Taskflow.Task
