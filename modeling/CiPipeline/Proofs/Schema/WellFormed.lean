import CiPipeline.Proofs.Entries
import CiPipeline.Proofs.Schema.Fields
import CiPipeline.Proofs.Text.Blank

/-! What a pipeline made from a document is like: it has something to do, its jobs and steps have names, and
each of its parts is what the document says in the place of this part. -/
namespace CiPipeline

open CiPipeline.Schema CiPipeline.Text

structure Pipeline.HasWork (pipeline : Pipeline) : Prop where
  some_job : pipeline.jobs ≠ []
  some_step : ∀ job ∈ pipeline.jobs, job.steps ≠ []

structure Step.WellFormed (step : Step) : Prop where
  named : step.name ≠ ""
  command : ∃ c ∈ step.run.toList, isBlank c = false
  first_line : trim step.run ≠ ""

structure Pipeline.WellFormed (pipeline : Pipeline) : Prop where
  work : pipeline.HasWork
  distinct : (pipeline.jobs.map Job.name).Nodup
  steps : ∀ job ∈ pipeline.jobs, ∀ step ∈ job.steps, step.WellFormed

namespace Schema

def EnvOf (fields : Entries) (env : Env) : Prop :=
  (fields.field? "env" = none ∧ env = []) ∨
    ∃ value described, fields.field? "env" = some value ∧ IsMapping value described ∧
      Keyed.Alike (fun part text => ∃ scalar, IsScalar part scalar ∧ text = scalar.spelled) described env

/-- A name that is given, or else the first line of the command. -/
inductive NameOf (fields : Entries) (run : String) : String → Prop
  | given {value name} (said : Says fields "name" value) (text : IsText value name)
    (filled : name ≠ "") : NameOf fields run name
  | empty {value} (said : Says fields "name" value) (text : IsText value "") :
    NameOf fields run (firstLine (trim run))
  | unsaid (missing : Unsaid fields "name") : NameOf fields run (firstLine (trim run))

structure StepOf (fields : Entries) (step : Step) : Prop where
  /-- The step is not taken over from elsewhere. -/
  own : Unsaid fields "uses"
  run : ∃ value, Says fields "run" value ∧ IsText value step.run
  name : NameOf fields step.run step.name
  env : EnvOf fields step.env

def IsStep (value : Document) (step : Step) : Prop :=
  ∃ fields, value.opened = .map fields ∧ StepOf fields step

inductive StrategyOf (fields : Entries) : Keyed Document → Prop
  | unsaid (missing : Unsaid fields "strategy") : StrategyOf fields []
  | empty {value} {parts : Entries} (said : Says fields "strategy" value)
    (mapping : value.opened = .map parts) (missing : parts.field? "matrix" = none) : StrategyOf fields []
  | matrix {value axes matrix} {parts : Entries} (said : Says fields "strategy" value)
    (mapping : value.opened = .map parts) (given : parts.field? "matrix" = some axes)
    (is_matrix : IsMapping axes matrix) : StrategyOf fields matrix

/-- A matrix stands at the top, where the strategy then gives none, or else in the strategy. -/
inductive MatrixOf (fields : Entries) : Keyed Document → Prop
  | top {axes matrix} (said : Says fields "matrix" axes) (is_matrix : IsMapping axes matrix)
    (alone : StrategyOf fields []) : MatrixOf fields matrix
  | strategy {matrix} (missing : Unsaid fields "matrix") (given : StrategyOf fields matrix) :
    MatrixOf fields matrix

structure JobOf (fields : Entries) (job : Job) : Prop where
  steps : ∃ value items, fields.field? "steps" = some value ∧ IsList value items ∧
    List.Forall₂ IsStep items job.steps
  matrix : MatrixOf fields job.matrix
  env : EnvOf fields job.env

def IsJob (value : Document) (job : Job) : Prop :=
  ∃ fields, value.opened = .map fields ∧ JobOf fields job

structure PipelineOf (fields : Entries) (pipeline : Pipeline) : Prop where
  jobs : ∃ value described, fields.field? "jobs" = some value ∧ IsMapping value described ∧
    List.Forall₂ (fun entry job => job.name = entry.1 ∧ IsJob entry.2 job) described pipeline.jobs
  env : EnvOf fields pipeline.env

/-- A document describes a pipeline: what is made of every part of the document that counts here. -/
def Describes (document : Document) (pipeline : Pipeline) : Prop :=
  ∃ fields, document.opened = .map fields ∧ PipelineOf fields pipeline

/-- A job with a matrix at the top and another one, which is not empty, in its strategy. -/
def TwoMatrices (value : Document) : Prop :=
  ∃ (fields parts : Entries) (axes strategy inner : Document), value.opened = .map fields ∧
    Says fields "matrix" axes ∧ Says fields "strategy" strategy ∧ strategy.opened = .map parts ∧
      parts.field? "matrix" = some inner ∧ ∃ entry entries, inner.opened = .map (entry :: entries)

theorem envOf_of_readField {fields : Entries} {read : Keyed Scalar} {env : Env}
    (valid : readField fields none "env" [] readEnv = .valid read) (spelled : spellEnv read = .ok env) :
    EnvOf fields env := by
  have same : env = read.mapValues Scalar.spelled := by
    rw [spellEnv] at spelled
    split at spelled
    · cases spelled
    · exact (Except.ok.inj spelled).symm
  rcases readField_eq_valid_iff.1 valid with ⟨missing, rfl⟩ | ⟨value, found, mapped⟩
  · exact .inl ⟨missing, same⟩
  · obtain ⟨described, mapping, alike, _⟩ := exists_isMapping_of_readMap mapped
    refine .inr ⟨value, described, found, mapping, ?_⟩
    rw [same]
    exact alike.mapValues fun _ scalar read => ⟨scalar, isScalar_of_readScalar read, rfl⟩

theorem exists_fields_of_readForm {α : Type} {form : String} {read : Entries → Checked α}
    {value : Document} {result : α} (valid : readForm form read value = .valid result) :
    ∃ fields, value.opened = .map fields ∧ read fields = .valid result := by
  rw [readForm] at valid
  split at valid
  · rename_i fields mapping
    exact ⟨fields, mapping, valid⟩
  · cases valid

theorem NameOf.ne_empty {fields : Entries} {run name : String} (named : NameOf fields run name)
    (filled : isBlankText run = false) : name ≠ "" := by
  cases named with
  | given _ _ filled => exact filled
  | empty => exact firstLine_trim_ne_empty filled
  | unsaid => exact firstLine_trim_ne_empty filled

theorem nameOf_of_readField {fields : Entries} {name : Option String} (run : String)
    (valid : readField fields none "name" none (readOptional readText) = .valid name) :
    NameOf fields run ((givenText name).getD (firstLine (trim run))) := by
  cases name with
  | none => exact .unsaid (unsaid_of_readField valid)
  | some name =>
    obtain ⟨value, said, read⟩ := exists_says_of_readField valid
    have text := isText_of_readText read
    by_cases empty : name = ""
    · rw [empty] at text ⊢
      exact .empty said text
    · have given : givenText (some name) = some name := by simp [givenText, empty]
      rw [given]
      exact .given said text empty

namespace StepForm

theorem check_eq_valid_iff {form result : StepForm} : form.check = .valid result ↔
    form.uses = none ∧ isBlankText (form.run.getD "") = false ∧ form = result := by
  rw [check]
  split
  · rename_i uses own
    simp [own, ruleBroken, Checked.refuse]
  · rename_i own
    split
    · rename_i blank
      simp [blank, ruleBroken, Checked.refuse]
    · rename_i filled
      simp [own, filled]

theorem ofFields_valid {fields : Entries} {form : StepForm} (valid : ofFields fields = .valid form) :
    readField fields none "name" none (readOptional readText) = .valid form.name ∧
    readField fields none "run" none (readOptional readText) = .valid form.run ∧
    readField fields none "uses" none (readOptional readText) = .valid form.uses ∧
    readField fields none "env" [] readEnv = .valid form.env := by
  simp only [ofFields, Checked.seq_eq_valid_iff, Checked.fmap_eq_valid_iff] at valid
  -- The field that is read last stands outermost.
  obtain ⟨_, ⟨_, ⟨_, ⟨_, ⟨_, ⟨_, ⟨_, ⟨name, read_name, rfl⟩, run, read_run, rfl⟩, uses, read_uses, rfl⟩,
    _, _, rfl⟩, _, _, rfl⟩, _, _, rfl⟩, env, read_env, rfl⟩, _, _, rfl⟩ := valid
  exact ⟨read_name, read_run, read_uses, read_env⟩

end StepForm

theorem isStep_of_readStep {value : Document} {form : StepForm} {step : Step}
    (valid : readStep value = .valid form) (made : form.toStep = .ok step) :
    IsStep value step ∧ step.WellFormed := by
  obtain ⟨fields, mapping, read⟩ := exists_fields_of_readForm valid
  obtain ⟨plain, formed, checked⟩ := Checked.andThen_eq_valid_iff.1 read
  obtain ⟨own, filled, rfl⟩ := StepForm.check_eq_valid_iff.1 checked
  obtain ⟨read_name, read_run, read_uses, read_env⟩ := StepForm.ofFields_valid formed
  obtain ⟨env, spelled, rfl⟩ := Success.map_iff.1 made
  rw [own] at read_uses
  cases command : plain.run with
  | none =>
    rw [command] at filled
    exact absurd filled (by decide)
  | some run =>
    rw [command, Option.getD_some] at filled
    rw [command] at read_run
    obtain ⟨said, text, read_text⟩ := exists_says_of_readField read_run
    have named := nameOf_of_readField run read_name
    rw [Option.getD_some]
    exact ⟨⟨fields, mapping, unsaid_of_readField read_uses, ⟨said, text, isText_of_readText read_text⟩,
      named, envOf_of_readField read_env spelled⟩, named.ne_empty filled,
      isBlankText_eq_false_iff.1 filled, trim_ne_empty filled⟩

theorem strategyOf_of_readField {fields : Entries} {given : Option (Keyed Document)}
    (valid : readField fields none "strategy" none (readOptional readStrategy) = .valid given) :
    StrategyOf fields (given.getD []) := by
  cases given with
  | none => exact .unsaid (unsaid_of_readField valid)
  | some matrix =>
    obtain ⟨value, said, read⟩ := exists_says_of_readField valid
    obtain ⟨parts, mapping, read⟩ := exists_fields_of_readForm read
    rcases readField_eq_valid_iff.1 read with ⟨missing, rfl⟩ | ⟨axes, found, read⟩
    · exact .empty said mapping missing
    · exact .matrix said mapping found (isMapping_of_readOpenMap read)

namespace JobForm

theorem check_eq_valid_iff {form result : JobForm} : form.check = .valid result ↔
    (form.matrix.isSome = true → form.strategy.getD [] = []) ∧ form = result := by
  rw [check]
  split
  · rename_i both
    rw [Bool.and_eq_true, Bool.not_eq_true', List.isEmpty_eq_false_iff] at both
    simp [both, ruleBroken, Checked.refuse]
  · rename_i single
    rw [Bool.and_eq_true, Bool.not_eq_true', List.isEmpty_eq_false_iff, not_and, not_not] at single
    rw [Checked.valid.injEq, and_iff_right single]

theorem ofFields_valid {fields : Entries} {form : JobForm} (valid : ofFields fields = .valid form) :
    readRequired fields "steps" readSteps = .valid form.steps ∧
    readField fields none "matrix" none (readOptional readOpenMap) = .valid form.matrix ∧
    readField fields none "strategy" none (readOptional readStrategy) = .valid form.strategy ∧
    readField fields none "env" [] readEnv = .valid form.env := by
  simp only [ofFields, Checked.seq_eq_valid_iff, Checked.fmap_eq_valid_iff] at valid
  obtain ⟨_, ⟨_, ⟨_, ⟨_, ⟨_, ⟨_, ⟨_, _, rfl⟩, steps, read_steps, rfl⟩, _, _, rfl⟩, matrix, read_matrix,
    rfl⟩, strategy, read_strategy, rfl⟩, env, read_env, rfl⟩, _, _, rfl⟩ := valid
  exact ⟨read_steps, read_matrix, read_strategy, read_env⟩

theorem matrixOf {fields : Entries} {form : JobForm} (valid : ofFields fields = .valid form)
    (checked : form.check = .valid form) :
    MatrixOf fields ((form.matrix <|> form.strategy).getD []) := by
  obtain ⟨_, read_matrix, read_strategy, _⟩ := ofFields_valid valid
  obtain ⟨single, _⟩ := check_eq_valid_iff.1 checked
  have strategy := strategyOf_of_readField read_strategy
  cases top : form.matrix with
  | none =>
    rw [top] at read_matrix
    exact .strategy (unsaid_of_readField read_matrix) strategy
  | some matrix =>
    rw [top] at read_matrix single
    obtain ⟨axes, said, read⟩ := exists_says_of_readField read_matrix
    rw [single rfl] at strategy
    exact .top said (isMapping_of_readOpenMap read) strategy

end JobForm

theorem MatrixOf.not_twoMatrices {fields : Entries} {matrix : Keyed Document} {value : Document}
    (is_matrix : MatrixOf fields matrix) (mapping : value.opened = .map fields) :
    ¬TwoMatrices value := by
  rintro ⟨fields', parts, axes, strategy, inner, same, top, said, opened, found, entry, entries, filled⟩
  obtain rfl := Document.map.inj (mapping.symm.trans same)
  cases is_matrix with
  | strategy missing _ => exact top.2 (missing axes top.1)
  | top _ _ alone =>
    cases alone with
    | unsaid missing => exact said.2 (missing strategy said.1)
    | empty said' opened' missing =>
      obtain rfl := Option.some.inj (said.1.symm.trans said'.1)
      obtain rfl := Document.map.inj (opened.symm.trans opened')
      rw [found] at missing
      cases missing
    | matrix said' opened' found' is_empty =>
      obtain rfl := Option.some.inj (said.1.symm.trans said'.1)
      obtain rfl := Document.map.inj (opened.symm.trans opened')
      obtain rfl := Option.some.inj (found.symm.trans found')
      -- An entry of the strategy keeps its name in the matrix that is read from it.
      obtain ⟨_, pairs, filled', named, none⟩ := is_empty
      obtain rfl := Document.map.inj (filled.symm.trans filled')
      cases named with
      | @cons _ pair _ rest _ _ =>
        have known : pair.1 ∈ (Keyed.ofPairs (pair :: rest)).names :=
          Keyed.mem_names_ofPairs.2 List.mem_cons_self
        rw [← none] at known
        cases known

theorem exists_isStep_of_readSteps {value : Document} {forms : List StepForm} {steps : List Step}
    (valid : readSteps value = .valid forms) (made : forms.mapM StepForm.toStep = .ok steps) :
    (∃ items, IsList value items ∧ List.Forall₂ IsStep items steps) ∧ steps ≠ [] ∧
      ∀ step ∈ steps, step.WellFormed := by
  obtain ⟨read, valid, filled⟩ := Checked.andThen_eq_valid_iff.1 valid
  obtain ⟨items, list, each⟩ := exists_isList_of_readList valid
  split at filled
  · cases filled
  · rename_i some_step
    obtain rfl := Checked.valid.inj filled
    have made := Success.mapM_iff.1 made
    have all := Success.forall₂_comp each made fun _ _ _ read made => isStep_of_readStep read made
    refine ⟨⟨items, list, all.imp fun _ _ both => both.1⟩, ?_, fun step member => ?_⟩
    · rintro rfl
      exact some_step (List.isEmpty_iff.2 (List.forall₂_nil_right_iff.1 made))
    · obtain ⟨_, _, both⟩ := Success.exists_left all member
      exact both.2

theorem isJob_of_readJob {value : Document} {form : JobForm} {key : String} {job : Job}
    (valid : readJob value = .valid form) (made : form.toJob key = .ok job) :
    job.name = key ∧ IsJob value job ∧ job.steps ≠ [] ∧ ∀ step ∈ job.steps, step.WellFormed := by
  obtain ⟨fields, mapping, read⟩ := exists_fields_of_readForm valid
  obtain ⟨plain, formed, checked⟩ := Checked.andThen_eq_valid_iff.1 read
  obtain ⟨_, rfl⟩ := JobForm.check_eq_valid_iff.1 checked
  obtain ⟨read_steps, _, _, read_env⟩ := JobForm.ofFields_valid formed
  obtain ⟨steps, made_steps, made⟩ := Success.bind_iff.1 made
  obtain ⟨env, spelled, made⟩ := Success.bind_iff.1 made
  obtain rfl := Except.ok.inj made
  obtain ⟨value', found, read_steps⟩ := readRequired_eq_valid_iff.1 read_steps
  obtain ⟨⟨items, list, all⟩, some_step, well⟩ := exists_isStep_of_readSteps read_steps made_steps
  exact ⟨rfl, ⟨fields, mapping, ⟨value', items, found, list, all⟩, plain.matrixOf formed checked,
    envOf_of_readField read_env spelled⟩, some_step, well⟩

theorem not_twoMatrices_of_readJob {value : Document} {form : JobForm}
    (valid : readJob value = .valid form) : ¬TwoMatrices value := by
  obtain ⟨fields, mapping, read⟩ := exists_fields_of_readForm valid
  obtain ⟨plain, formed, checked⟩ := Checked.andThen_eq_valid_iff.1 read
  obtain ⟨_, rfl⟩ := JobForm.check_eq_valid_iff.1 checked
  exact (plain.matrixOf formed checked).not_twoMatrices mapping

namespace PipelineForm

theorem ofFields_valid {fields : Entries} {form : PipelineForm}
    (valid : ofFields fields = .valid form) :
    readField fields none "env" [] readEnv = .valid form.env ∧
      readRequired fields "jobs" readJobs = .valid form.jobs := by
  simp only [ofFields, Checked.seq_eq_valid_iff, Checked.fmap_eq_valid_iff] at valid
  obtain ⟨_, ⟨_, ⟨_, ⟨_, _, rfl⟩, _, _, rfl⟩, env, read_env, rfl⟩, jobs, read_jobs, rfl⟩ := valid
  exact ⟨read_env, read_jobs⟩

theorem pipelineOf {fields : Entries} {form : PipelineForm} {pipeline : Pipeline}
    (valid : ofFields fields = .valid form) (made : form.toPipeline = .ok pipeline) :
    PipelineOf fields pipeline ∧ pipeline.WellFormed := by
  obtain ⟨read_env, read_jobs⟩ := ofFields_valid valid
  obtain ⟨value, found, read_jobs⟩ := readRequired_eq_valid_iff.1 read_jobs
  obtain ⟨forms, read_jobs, filled⟩ := Checked.andThen_eq_valid_iff.1 read_jobs
  obtain ⟨described, mapping, alike, _⟩ := exists_isMapping_of_readMap read_jobs
  obtain ⟨jobs, made_jobs, made⟩ := Success.bind_iff.1 made
  obtain ⟨env, spelled, made⟩ := Success.bind_iff.1 made
  obtain rfl := Except.ok.inj made
  split at filled
  · cases filled
  · rename_i some_job
    rw [← Checked.valid.inj filled] at made_jobs
    have made_jobs := Success.mapM_iff.1 made_jobs
    -- From the document over the forms to the jobs, entry by entry.
    have all : List.Forall₂ (fun entry job => job.name = entry.1 ∧ IsJob entry.2 job ∧
        job.steps ≠ [] ∧ ∀ step ∈ job.steps, step.WellFormed) described jobs := by
      refine Success.forall₂_comp alike made_jobs fun entry form job both made => ?_
      rw [← both.1]
      exact isJob_of_readJob both.2 made
    have names : jobs.map Job.name = described.names := by
      rw [← List.forall₂_eq_eq_eq, Keyed.names, List.forall₂_map_left_iff, List.forall₂_map_right_iff]
      exact all.flip.imp fun _ _ both => both.1
    obtain ⟨entries, pairs, _, _, rfl⟩ := id mapping
    refine ⟨⟨⟨value, _, found, mapping, all.imp fun _ _ both => ⟨both.1, both.2.1⟩⟩,
      envOf_of_readField read_env spelled⟩, ⟨?_, fun job member => ?_⟩, ?_, fun job member => ?_⟩
    · rintro rfl
      exact some_job (List.isEmpty_iff.2 (List.forall₂_nil_right_iff.1 made_jobs))
    · obtain ⟨_, _, both⟩ := Success.exists_left all member
      exact both.2.2.1
    · rw [names]
      exact Keyed.nodup_names_ofPairs pairs
    · obtain ⟨_, _, both⟩ := Success.exists_left all member
      exact both.2.2.2

end PipelineForm

theorem field?_restoreTriggers (fields : Entries) {name : String} (apart : "on" ≠ name) :
    (restoreTriggers fields).field? name = fields.field? name := by
  have bare : (Document.text name).sameKey (.bool true) = false := rfl
  rw [restoreTriggers]
  split
  · rfl
  · dsimp only
    split
    · exact Entries.field?_erase fields bare
    · rw [Entries.field?_put apart, Entries.field?_erase fields bare]

theorem PipelineOf.of_restored {fields : Entries} {pipeline : Pipeline}
    (restored : PipelineOf (restoreTriggers fields) pipeline) : PipelineOf fields pipeline := by
  obtain ⟨jobs, env⟩ := restored
  rw [EnvOf] at env
  rw [field?_restoreTriggers fields (by decide)] at jobs env
  exact ⟨jobs, env⟩

theorem not_twoMatrices_of_ofFields {fields entries : Entries} {form : PipelineForm} {value : Document}
    (valid : PipelineForm.ofFields fields = .valid form) (found : fields.field? "jobs" = some value)
    (mapping : value.opened = .map entries) {entry : Document × Document} (member : entry ∈ entries) :
    ¬TwoMatrices entry.2 := by
  obtain ⟨_, read_jobs⟩ := PipelineForm.ofFields_valid valid
  obtain ⟨value', found', read_jobs⟩ := readRequired_eq_valid_iff.1 read_jobs
  obtain rfl := Option.some.inj (found.symm.trans found')
  obtain ⟨_, read_jobs, _⟩ := Checked.andThen_eq_valid_iff.1 read_jobs
  obtain ⟨_, _, _, all⟩ := exists_isMapping_of_readMap read_jobs
  obtain ⟨_, read⟩ := all entries mapping entry member
  exact not_twoMatrices_of_readJob read

end Schema

namespace Pipeline

/-- A pipeline made from a document is well formed, and each of its parts is what the document says in its
place. A document in which a job has two matrices is refused. -/
theorem wellFormed_of_document (source : String) (document : Document) :
    (∀ pipeline, ofDocument source document = .ok pipeline →
      pipeline.WellFormed ∧ Describes document pipeline) ∧
    ∀ (fields entries : Entries) (value : Document), document.opened = .map fields →
      fields.field? "jobs" = some value → value.opened = .map entries →
      (∃ entry ∈ entries, TwoMatrices entry.2) →
        ∃ issues, ofDocument source document = .error (.problem (.invalidFields source issues)) := by
  constructor
  · intro pipeline made
    rw [ofDocument] at made
    split at made
    · rename_i fields mapping
      split at made
      · rename_i form valid
        obtain ⟨described, well⟩ := PipelineForm.pipelineOf valid (Success.mapError_iff.1 made)
        exact ⟨well, fields, mapping, described.of_restored⟩
      · cases made
    · cases made
  · rintro fields entries value mapping found opened ⟨entry, member, doubled⟩
    rw [ofDocument, mapping]
    dsimp only
    cases checked : PipelineForm.ofFields (restoreTriggers fields) with
    | valid form =>
      rw [← field?_restoreTriggers fields (by decide)] at found
      exact absurd doubled (not_twoMatrices_of_ofFields checked found opened member)
    | invalid issues => exact ⟨issues, rfl⟩

def unnamedStep : Document :=
  .map [(.text "run", .text "\n make all\nmake check"), (.text "env", .map [(.text "FAST", .bool true)])]

def sampleAxes : Document := .map [(.text "os", .list [.text "linux", .text "mac"])]

def sampleJob (top : Entries) : Document :=
  .map ([(.text "steps", .list [unnamedStep]), (.text "strategy", .map [(.text "matrix", sampleAxes)])] ++
    top)

def sampleDocument (top : Entries) : Document :=
  .map [(.text "jobs", .map [(.text "build", sampleJob top)])]

def sampleRead : Pipeline where
  name := "pipeline"
  jobs := [
    { name := "build", steps := [⟨"make all", "\n make all\nmake check", none, none, [("FAST", "true")], none⟩]
      needs := [], matrix := [("os", .list [.text "linux", .text "mac"])], env := [], title := none
      runsOn := none }]
  env := []
  triggers := []

theorem wellFormed_of_document_sample : ofDocument "sample" (sampleDocument []) = .ok sampleRead ∧
    sampleRead.WellFormed ∧ Describes (sampleDocument []) sampleRead ∧
    ∃ issues, ofDocument "sample" (sampleDocument [(.text "matrix", sampleAxes)]) =
      .error (.problem (.invalidFields "sample" issues)) := by
  have made : ofDocument "sample" (sampleDocument []) = .ok sampleRead := by with_unfolding_all rfl
  obtain ⟨well, described⟩ := (wellFormed_of_document "sample" (sampleDocument [])).1 sampleRead made
  refine ⟨made, well, described, ?_⟩
  refine (wellFormed_of_document "sample" (sampleDocument [(.text "matrix", sampleAxes)])).2 _ _ _ rfl rfl
    rfl ⟨_, List.mem_cons_self, _, _, sampleAxes, _, sampleAxes, rfl, ⟨rfl, ?_⟩, ⟨rfl, ?_⟩, rfl, rfl, _, _,
      rfl⟩
  · exact Document.noConfusion
  · exact Document.noConfusion

end Pipeline

end CiPipeline
