import CiPipeline.Files.Tree
import CiPipeline.Schema.Pipeline
import CiPipeline.Text.Lines

/-! From text or file to pipeline. The suffix of a path decides whether the file is a document or a
workflow. -/
namespace CiPipeline.Pipeline

open Text Files

def ofText (source text : String) : Except Failure Pipeline :=
  if isBlankText text then .error (.problem (.emptyDocument source))
  else
    match Yaml.read text with
    | .error fault =>
      match fault.crash? with
      | none => .error (.problem (.notYaml source))
      | some crash => .error (.crash crash)
    | .ok document => ofDocument source document

def workflowSuffix : String := ".py"

/-- A directory is no program, whatever its name. -/
def noMainProgram (path : String) : String :=
  "ImportError: can't find '__main__' module in " ++ Text.quoted path

/-- The pipeline in a workflow file. A file of which no definitions are known defines nothing. -/
def ofWorkflowEntry (resolved : Path) : Entry → Except Failure Pipeline
  | .workflow definitions => definitions.toPipeline resolved
  | .bytes _ => Workflow.empty.toPipeline resolved
  | .directory =>
    .error (.problem (.workflowBroken resolved.text (noMainProgram resolved.text)))

/-- The pipeline in a document file; line ends of all sorts count as one. -/
def ofDocumentEntry (source : String) : Entry → Except Failure Pipeline
  | .bytes content =>
    match decodeStrict? content with
    | none => .error (.problem (.unreadableFile source))
    | some cs => ofText source (String.ofList (unifyNewlines cs))
  | _ => .error (.problem (.unreadableFile source))

def load (tree : Tree) (base path : Path) : Except Failure Pipeline :=
  if tree.refuses base path then .error (.crash (.longPath path.text))
  else match tree.look? base path with
  | none => .error (.problem (.missingFile path.text))
  | some (_, entry) =>
    if path.suffix = workflowSuffix then ofWorkflowEntry (base.resolve path) entry
    else ofDocumentEntry path.text entry

end CiPipeline.Pipeline
