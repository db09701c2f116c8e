import GuideSite.Command.Run

/-!
# The command line

The program reads the files that its command needs into a file tree, runs the command on that tree, and writes the files
that are new there. It has no network: every request to a published site breaks down.
-/

namespace GuideSite.Program

open Command

/-- The options that the environment may give. -/
def optionNames : List String :=
  (settings.flatMap fun (_, options) => options.map (·.name)).eraseDups

/-- The environment of the program. -/
def environment : IO Environment := do
  let values ← optionNames.mapM fun name => do
    return (variableOf name, ← IO.getEnv (variableOf name))
  return fun key => (values.lookup key).join

/-- The tree with the text of a file, if the file can be read. -/
def addFile (cwd : Location) (t : FileTree) (p : Path) : IO FileTree := do
  try
    let content ← IO.FS.readFile p.text
    return (t.writeWithDirectories cwd p content).1
  catch _ => return t

/-- The files that a command needs besides its configuration file. -/
def neededFiles (t : FileTree) (cwd : Location) (i : Invocation) : List Path :=
  match i.command, Config.siteAt t cwd i.config with
  | .links siteDir _, .ok site =>
    (Links.catalogue site).map fun link => siteDir.getD site.outputDir / .parse (Links.withoutFragment link)
  | _, _ => []

/-- The files of a tree that another one does not have, with their texts. -/
def newFiles (before after : FileTree) : List (Location × String) :=
  after.places.filterMap fun place =>
    match after.find? place with
    | some (.file content) => if before.find? place = after.find? place then none else some (place, content)
    | _ => none

/-- The file at a place, in a directory that is made for it. -/
def writeFile (place : Location) (content : String) : IO Unit := do
  IO.FS.createDirAll (Path.text ⟨.root, place.tail.reverse⟩)
  IO.FS.writeFile (Path.text ⟨.root, place.reverse⟩) content

/-- The exit status after a command. -/
def perform (i : Invocation) : IO UInt32 := do
  let cwd := (Path.parse ((← IO.getEnv "PWD").getD "/")).names.reverse
  let start := (FileTree.empty.makeDirectories [] ⟨.root, cwd.reverse⟩).1
  let withConfig ← addFile cwd start i.config
  let before ← (neededFiles withConfig cwd i).foldlM (addFile cwd) withConfig
  let (after, report) := run ⟨cwd, fun _ => .breakdown "no network"⟩ before i
  for (place, content) in newFiles before after do
    writeFile place content
  match report with
  | .error e =>
    IO.eprintln e.message
    return 1
  | .ok report =>
    IO.print report.text
    return report.exit.toUInt32

end GuideSite.Program

/-- The program: a command with its options. -/
def main (words : List String) : IO UInt32 := do
  match GuideSite.Command.ofWords? (← GuideSite.Program.environment) words with
  | some i => GuideSite.Program.perform i
  | none =>
    IO.eprintln "usage: pages (generate | nav | masthead | links) [--option value]"
    return GuideSite.Command.misuse.exit.toUInt32
