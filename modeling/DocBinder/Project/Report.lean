import DocBinder.Sync.Coordinator
import DocBinder.Terminal.Grid

/-!
# Reports

What a run tells its user: single notices, what became of a document, the totals of a run, and what
a run would come to. Details are told only when they are asked for.
-/

namespace DocBinder.Project

open Sync (Outcome Run Preview)

/-- Something to be told. Information and details are told from a verbosity of one and two on. -/
inductive Notice where
  | success (message : String)
  | error (message : String)
  | warning (message : String)
  | info (message : String)
  | debug (message : String)
  | plain (message : String)
  | previews (items : List Preview)
deriving Repr, Inhabited

namespace Notice

/-- The columns of the table of previews. -/
def previewLayout : List Terminal.GridColumn :=
  ⟨"Document", false⟩
    :: ["Requests", "Formats", "Tables", "Links", "Images"].map fun heading => ⟨heading, true⟩

/-- The row of a preview. -/
def previewRow (preview : Preview) : List String :=
  preview.path :: [preview.requests, preview.directives, preview.tables, preview.links,
    preview.images].map toString

/-- What a notice shows. -/
def shown (verbosity : Int) : Notice → Except Failure Text
  | success message => Terminal.shown ("[green]✓[/green] " ++ message)
  | error message => Terminal.shown ("[red]✗[/red] " ++ message)
  | warning message => Terminal.shown ("[yellow]⚠[/yellow] " ++ message)
  | info message => if 1 ≤ verbosity then Terminal.shown message else .ok []
  | debug message =>
      if 2 ≤ verbosity then Terminal.shown ("[dim]" ++ message ++ "[/dim]") else .ok []
  | plain message => Terminal.shown message
  | previews items => Terminal.drawGrid previewLayout (items.map previewRow)

end Notice

/-- What notices show, one after another. -/
def shownAll (verbosity : Int) (notices : List Notice) : Except Failure Text :=
  (notices.mapM (Notice.shown verbosity)).map List.flatten

/-- The text of something that may be missing. -/
def orNone (text : Option String) : String :=
  text.getD "None"

/-- What became of a document that did not fail. -/
def writtenNotices (outcome : Outcome) (status : Sync.Status) : List Notice :=
  let stats := outcome.stats
  [.info s!"[green]✓[/green] {outcome.path} ({status.name})",
    .debug (s!"  {stats.requests} request(s), {stats.directivesResolved} formatted, "
      ++ s!"{stats.directivesSkipped} unresolved, {stats.cellsPopulated} cell(s), "
      ++ s!"{stats.linksResolved} link(s), {stats.imagesInserted} image(s)")]
    ++ if stats.imagesFallback == 0 then []
      else [.warning s!"{outcome.path}: {stats.imagesFallback} image(s) inserted as text"]

/-- What became of a document. A document that a run has not classified has no report. -/
def documentNotices (outcome : Outcome) : Except Failure (List Notice) :=
  match outcome.status with
  | some .failed =>
      let phase := (outcome.failedPhase.map (·.name)).getD "start"
      .ok [.error s!"{outcome.path}: failed after {phase} ({orNone outcome.error})"]
  | some status => .ok (writtenNotices outcome status)
  | none =>
      .error (.foreign "AttributeError" "'NoneType' object has no attribute 'value'")

/-- A line of the totals, which is left out when there is nothing to count. -/
def totalNotice (mark name : String) (count : Nat) : List Notice :=
  if count == 0 then [] else [.plain s!"  {mark} {name}: {count} document(s)"]

/-- How a run went as a whole. -/
def verdict (run : Run) : String :=
  if run.total == 0 then "\n[yellow]No documents to sync[/yellow]"
  else if run.count .failed != 0 then "\n[red]Sync completed with failures[/red]"
  else if run.count .created == 0 && run.count .updated == 0 then
    "\n[green]Already in sync. No changes detected.[/green]"
  else "\n[green]Sync completed successfully[/green]"

/-- The totals of a run, and the address of the document it wrote to. -/
def summaryNotices (run : Run) (url : String) : List Notice :=
  [.plain "\n[bold]Sync Summary:[/bold]"]
    ++ totalNotice "[green]+[/green]" "Created" (run.count .created)
    ++ totalNotice "[blue]↻[/blue]" "Updated" (run.count .updated)
    ++ totalNotice "[dim]─[/dim]" "Skipped" (run.count .skipped)
    ++ totalNotice "[red]✗[/red]" "Failed" (run.count .failed)
    ++ run.failures.map (fun outcome => .plain s!"      {outcome.path}: {orNone outcome.error}")
    ++ [.plain (verdict run)]
    ++ if url.isEmpty then [] else [.plain s!"Document: {url}"]

/-- What a run would come to. -/
def previewNotices (previews : List Preview) : List Notice :=
  let dropped := total (previews.map (·.blocksDropped))
  .plain "\n[bold]Dry Run - Changes Preview:[/bold]"
    :: if previews.isEmpty then
        [.plain "\n[green]Already in sync. No changes to apply.[/green]"]
      else
        [.previews previews]
          ++ if dropped == 0 then [] else [.warning s!"{dropped} block(s) would be dropped"]

end DocBinder.Project
