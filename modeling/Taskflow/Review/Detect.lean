import Taskflow.Repo.Tree
import Taskflow.Review.Bag
import Taskflow.Review.Finding
import Taskflow.Text.Pattern.Search
import Taskflow.Text.Numeral
import Taskflow.Json.Show
/-!
The detectors a phase is reviewed with, each over the phase's text and a repository.
-/

namespace Taskflow.Review

open Text Repo

/-- Words too common to tell texts apart. -/
def stopWords : List String :=
  ["the", "and", "for", "with", "that", "this", "are", "not", "only", "but", "also", "when",
   "from", "into", "your", "their", "have", "has", "had", "will", "shall", "must", "should",
   "could", "would", "can", "may", "like", "then", "else", "elif", "true", "false", "none"]

def isWordPart (c : Char) : Bool :=
  ('A' ≤ c && c ≤ 'Z') || ('a' ≤ c && c ≤ 'z') || ('0' ≤ c && c ≤ '9') || "_./:-".toList.contains c

/-- The runs of word characters, at least two long, in order. -/
def wordRuns : List Char → List (List Char)
  | [] => []
  | c :: cs =>
    if isWordPart c then
      let run := c :: cs.takeWhile isWordPart
      let rest := cs.dropWhile isWordPart
      if run.length ≥ 2 then run :: wordRuns rest else wordRuns rest
    else wordRuns cs
termination_by cs => cs.length
decreasing_by
  all_goals try simp only [List.length_cons]
  all_goals first
    | omega
    | (have h := Text.length_dropWhile_le isWordPart cs; omega)

/-- The words of a text, in order. -/
def words (text : String) : List String :=
  ((wordRuns text.toList).map fun r => String.ofList (r.map Char.toLower)).filter fun w =>
    !stopWords.contains w && w.length ≥ 3

def bagOf (text : String) : Bag := Bag.ofWords (words text)

/-- The lines of a text a pattern occurs in: number from 1, and the line without trailing
blanks. -/
def linesWith (fl : MatchFlags) (p : Pattern) (text : String) : List (Nat × String) :=
  ((lines text).zipIdx.filter fun (l, _) => Pattern.test fl p l).map fun (l, i) => (i + 1, stripEnd l)

def duplicateThreshold : Float := 0.78

/-- The words of a bag, most frequent first, ties in the order they came. -/
def byFrequency (b : Bag) : List String :=
  ((b.zipIdx.mergeSort fun x y => x.1.2 > y.1.2 || (x.1.2 == y.1.2 && x.2 ≤ y.2)).map (·.1.1))

/-- Files that repeat the phase. -/
def semanticDuplicates (phase : String) (files : List (String × String)) : List Finding :=
  let pb := bagOf phase
  files.filterMap fun (path, text) =>
    let sim := pb.cosine (bagOf text)
    if sim ≥ duplicateThreshold then
      let keys := (byFrequency pb).take 6
      let pat := if keys.isEmpty then Pattern.seq [.lineStart, .lineEnd] else Pattern.alts (keys.map Pattern.str)
      let hits := (linesWith .caseless pat text).take 5
      let ev := if hits.isEmpty then [⟨path, 1, take text 200⟩]
        else hits.map fun (n, l) => ⟨path, n, take l 200⟩
      some { category := .duplicate, severity := .medium, evidence := ev,
             description := s!"Repository file appears semantically similar to this phase (cosine={Decimal.fixed sim 2})." }
    else none

/-- A non-root user. -/
def nonRootPattern : Pattern :=
  .alts [.seq [.str "non", .chars "- ", .str "root"], .str "uid:gid",
    .seq [.str "user", .plus .blank, .str "10001"]]

/-- CUDA 12.1 or its architecture flags. -/
def cudaPattern : Pattern :=
  .alts [.seq [.str "cuda", .many .blank, .str "12.1"], .str "cu121", .str "TORCH_CUDA_ARCH_LIST"]

/-- Policies a phase may name, with how each shows in a text. -/
def policyMarkers : List (String × Pattern) :=
  [("non_root", nonRootPattern), ("tini", .wholeWord "tini"), ("ghcr", .str "ghcr.io"),
   ("cuda", cudaPattern), ("trivy", .wholeWord "trivy"),
   ("sbom", .alts [.str "sbom", .str "spdx", .str "syft"]), ("health", .str "/health"),
   ("observability", .alts [.str "UnifiedObservabilityCenter", .str "observability"])]

/-- A line setting the user 10001. -/
def userLinePattern : Pattern :=
  .seq [.lineStart, .many .blank, .str "USER", .plus .blank, .str "10001", .opt (.str ":10001"),
    .wordEdge]

/-- tini as the entry point. -/
def tiniEntryPattern : Pattern :=
  .alts [.seq [.str "ENTRYPOINT", .plus .blank, .lit '[', .many .dot, .str "tini", .many .dot, .lit ']'],
    .seq [.str "tini", .plus .blank, .str "--"]]

def dockerfiles (files : List (String × String)) : List (String × String) :=
  files.filter fun f => baseName f.1 == "Dockerfile"

def bare (c : Category) (s : Severity) (d : String) : Finding := { category := c, severity := s, description := d }

/-- Policies the phase names that the files do not show. -/
def architecturalConflicts (phase : String) (files : List (String × String)) : List Finding :=
  let shows := fun (p : Pattern) => files.any fun f => !(linesWith .caseless p f.2).isEmpty
  let missing := policyMarkers.filterMap fun (name, p) =>
    if Pattern.test .caseless p phase && !shows p then
      some (bare .misalignment .medium s!"Phase references '{name}' policy/feature but repository shows no evidence of it.")
    else none
  let docks := dockerfiles files
  let inDocks := fun (p : Pattern) => docks.any fun f => !(linesWith .caseless p f.2).isEmpty
  let expect := fun (p : Pattern) => Pattern.test .caseless p phase && !docks.isEmpty
  missing ++
    (if expect nonRootPattern && !inDocks userLinePattern then
      [bare .conflict .high "Non-root policy expected but no Dockerfile sets USER 10001:10001."] else []) ++
    (if expect (.wholeWord "tini") && !inDocks tiniEntryPattern then
      [bare .conflict .high "tini expected as PID 1 but not found in Dockerfile ENTRYPOINT."] else []) ++
    (if expect cudaPattern && !inDocks cudaPattern then
      [bare .misalignment .medium "Phase expects CUDA 12.1/arch flags but Dockerfiles show no such config."] else [])

/-- A shell block: three backticks, `bash` or `sh` or nothing, a line break, the body, a line
break and three backticks. -/
def shellFence : Pattern :=
  .seq [.str "```", .opt (.alts [.str "bash", .str "sh"]), .lit '\n', .group 1 (.manyLazy .anyChar),
    .str "\n```"]

/-- The bodies of the shell blocks of a text. -/
def shellBlocks (text : String) : List String :=
  let cs := text.toList
  (Pattern.findAll .caselessLines shellFence cs).map fun m => m.groupD cs 1

/-- An install command of a tool: the tool, blanks, `install`, blanks, and the rest of the
line as group 1. -/
def installPattern (tool : Pattern) : Pattern :=
  .seq [tool, .plus .blank, .str "install", .plus .blank, .group 1 (.plus .dot), .lineEnd]

/-- The packages an install line names: its words that are not options. -/
def packagesIn (rest : String) : List String :=
  (Text.words rest).filter fun p => !startsWith p "-"

/-- The packages a line of a shell block installs with apt or pip; a pip line reading a
requirements file installs none. -/
def installedBy (line : String) : List String :=
  let l := strip line
  let cs := l.toList
  let apt := match Pattern.search .caseless (installPattern (.seq [.str "apt", .opt (.str "-get")])) cs with
    | some m => packagesIn (m.groupD cs 1)
    | none => []
  let pip := match Pattern.search .caseless (installPattern (.str "pip")) cs with
    | some m => if has line "-r" || has line "--requirement" then [] else packagesIn (m.groupD cs 1)
    | none => []
  apt ++ pip

/-- A plausible package name: two or more letters, digits or `_.+-`. -/
def plausiblePackage (s : String) : Bool :=
  s.length ≥ 2 && s.toList.all fun c =>
    ('A' ≤ c && c ≤ 'Z') || ('a' ≤ c && c ≤ 'z') || ('0' ≤ c && c ≤ '9') || "_.+-".toList.contains c

/-- The packages a phase's shell blocks install, each once, at most forty. -/
def requiredPackages (phase : String) : List String :=
  let all := ((shellBlocks phase).flatMap fun b => (lines b).flatMap installedBy).filter plausiblePackage
  (all.foldl (fun acc t => if acc.contains t then acc else acc ++ [t]) []).take 40

/-- The packages a requirements file lists, lower-cased. -/
def listedPackages (text : String) : List String :=
  (lines text).filterMap fun l =>
    let s := strip l
    if s.isEmpty || startsWith s "#" then none
    else
      let pkg := String.ofList (s.toList.takeWhile fun c => !"<>=[".toList.contains c)
      if pkg.isEmpty then none else some (lower pkg)

/-- An apt install with `-y` or `-`: the packages are group 1. -/
def aptYesPattern : Pattern :=
  .seq [.str "apt", .chars "- ", .str "get", .plus .blank, .str "install", .plus .blank, .lit '-',
    .opt (.lit 'y'), .plus .blank, .group 1 (.plus (.notChars "\n"))]

/-- The packages a Dockerfile or script installs with apt, lower-cased. -/
def aptPackages (text : String) : List String :=
  let cs := text.toList
  (Pattern.findAll .caseless aptYesPattern cs).flatMap fun m =>
    (packagesIn (strip (m.groupD cs 1))).map lower

/-- Packages the phase installs that the repository neither lists nor installs. -/
def missingDependencies (phase : String) (files : List (String × String)) : List Finding :=
  let reqs := files.filter fun f => startsWith (lower (baseName f.1)) "requirements"
  let pipKnown := reqs.flatMap fun f => listedPackages f.2
  let aptFiles := files.filter fun f => baseName f.1 == "Dockerfile" || suffix (baseName f.1) == ".sh" ||
    suffix (baseName f.1) == ".bash"
  let aptKnown := aptFiles.flatMap fun f => aptPackages f.2
  (requiredPackages phase).filterMap fun t =>
    let low := lower t
    if ["apt", "apt-get", "install", "pip"].contains low then none
    else if pipKnown.contains low || aptKnown.contains low then none
    else some (bare .missingDependency .high s!"Referenced dependency '{t}' not found in requirements or apt installs.")

/-- Features a phase may name that a repository should implement somewhere. -/
def blindSpotMarkers : List (String × Pattern) :=
  [("health_endpoint", .str "/health"),
   ("rollback_prev_tag", .alts [.wholeWord "prev", .str "FORCE_IMAGE_TAG"]),
   ("observability_payload", .alts [.str "UnifiedObservabilityCenter",
      .seq [.str "SBOM", .plus .blank, .str "digest"], .seq [.str "git", .plus .blank, .str "SHA"]])]

/-- Features the phase names that no file holds. -/
def blindSpots (phase : String) (files : List (String × String)) : List Finding :=
  blindSpotMarkers.filterMap fun (label, p) =>
    if Pattern.test .caseless p phase && !files.any (fun f => Pattern.test .caseless p f.2) then
      some (bare .blindSpot .medium s!"Phase references '{label}' but repository lacks any obvious implementation.")
    else none

/-- A date and commit tag: `YYYYMMDD-` and seven or more hexadecimal digits, as a word. -/
def dateTagPattern : Pattern :=
  .seq [.wordEdge, .str "YYYYMMDD-", .atLeast (.oneOf [.range '0' '9', .range 'a' 'f']) 7, .wordEdge]

/-- CI policies the phase expects that the workflow files do not show; `workflows` is none
when the repository has no workflow directory. -/
def ciPolicyGaps (phase : String) (workflows : Option (List (String × String))) : List Finding :=
  let expects := fun (p : Pattern) => Pattern.test .caseless p phase
  let trivy := expects (.alts [.str "trivy", .str "HIGH/CRITICAL", .str "severity"])
  let sbom := expects (.alts [.str "sbom", .str "spdx", .str "syft"])
  let tags := expects (.alts [.str "ghcr.io", .str "YYYYMMDD-<git_sha>"])
  match workflows with
  | some texts =>
    let shows := fun (p : Pattern) => texts.any fun f => !(linesWith .caseless p f.2).isEmpty
    (if trivy && !shows (.alts [.str "trivy", .str "aquasecurity/trivy-action", .str "severity", .str "exit-code"])
      then [bare .misalignment .medium "CI missing Trivy or severity-gated config."] else []) ++
    (if sbom && !shows (.alts [.str "syft", .str "sbom", .str "spdx", .str "anchore/sbom-action"])
      then [bare .misalignment .medium "CI missing SBOM generation (syft/SPDX)."] else []) ++
    (if tags && !shows (.alts [.str "ghcr.io", dateTagPattern])
      then [bare .misalignment .low "CI missing GHCR tag scheme references (date+git)."] else [])
  | none =>
    if trivy || sbom || tags then
      [bare .misalignment .low ".github/workflows not found but plan expects CI security/SBOM/tag policies."]
    else []

/-- A port mapping: `-`, blanks, an optional quote, the host port (two to five digits) as
group 1, `:`, the container port. -/
def portPattern : Pattern :=
  .seq [.lit '-', .many .blank, .opt (.lit '"'), .group 1 (.between .digit 2 5), .lit ':',
    .between .digit 2 5, .opt (.lit '"')]

/-- The host ports a compose file maps, in order. -/
def hostPorts (text : String) : List Int :=
  (lines text).filterMap fun l =>
    let cs := l.toList
    match Pattern.search {} portPattern cs with
    | some m => (readInt (m.groupD cs 1)).toOption
    | none => none

/-- Host ports mapped twice in the compose file at `path`, whose text is given. -/
def portCollisions (path : String) (text : String) : List Finding :=
  let ports := hostPorts text
  let twice := (ports.filter fun p => ports.count p > 1).foldl
    (fun acc p => if acc.contains p then acc else acc ++ [p]) []
  if twice.isEmpty then []
  else
    let shown := ", ".intercalate ((twice.mergeSort (· ≤ ·)).map toString)
    [{ category := .conflict, severity := .high,
       description := s!"docker-compose host port collisions detected: [{shown}]",
       evidence := [⟨path, 1, "host:container port duplicates present"⟩] }]

/-- Dockerfiles without a non-root user or without tini, as required. -/
def globalDockerPolicies (files : List (String × String)) (nonRoot tini : Bool) : List Finding :=
  let docks := dockerfiles files
  if docks.isEmpty then []
  else
    let offenders := fun (ok : String → Bool) => (docks.filter fun f => !ok f.2).map (·.1)
    let cite := fun (os : List String) (what : String) => (os.take 8).map fun o => Evidence.mk o 1 what
    let noUser := if nonRoot then offenders (Pattern.test .caselessLines userLinePattern) else []
    let noTini := if tini then offenders (Pattern.test .caseless tiniEntryPattern) else []
    (if noUser.isEmpty then [] else
      [{ bare .conflict .high "Some Dockerfiles do not enforce non-root USER 10001:10001." with
          evidence := cite noUser "USER missing" }]) ++
    (if noTini.isEmpty then [] else
      [{ bare .conflict .high "Some Dockerfiles do not use tini as PID 1." with
          evidence := cite noTini "tini missing" }])

end Taskflow.Review
