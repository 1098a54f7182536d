import CiPipeline.Json.Basic
import CiPipeline.Report.Basic

/-! A report as plain data. -/
namespace CiPipeline.Report

def stepData (result : StepResult) : Json := .object [
  ("name", .text result.name),
  ("outcome", .text result.outcome.name),
  ("exit_code", (result.exitCode.map Json.int).getD .null),
  ("cause", .ofText? (result.cause.map FailureCause.name)),
  ("error", .ofText? result.error),
  ("duration", (result.duration.map Json.float).getD .null),
  ("output", .list (result.output.map .text))]

def jobData (entry : String × JobResult) : Json := .object [
  ("id", .text entry.1),
  ("job", .text entry.2.inst.job),
  ("title", .ofText? entry.2.inst.title),
  ("matrix", .object (entry.2.inst.matrix.mapValues .ofScalar)),
  ("outcome", .text entry.2.outcome.name),
  ("reason", .ofText? entry.2.reason),
  ("steps", .list (entry.2.steps.map stepData))]

def data (report : Report) : Json := .object [
  ("pipeline", .text report.pipeline),
  ("verdict", .text report.verdict.name),
  ("jobs", .list (report.results.map jobData))]

end CiPipeline.Report
