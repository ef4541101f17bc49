import AgentDesk.ToolBox
import AgentDesk.Workbench.ContentSearch
import AgentDesk.Workbench.Download
import AgentDesk.Workbench.Edit
import AgentDesk.Workbench.FileSearch
import AgentDesk.Workbench.Listing
import AgentDesk.Workbench.MultiEdit
import AgentDesk.Workbench.Terminal
import AgentDesk.Workbench.View
import AgentDesk.Workbench.Write
/-!
# The workbench

A workbench is what the tools of an agent work on: a file tree, a shell and the network. Its tools
read and change files, search them, run commands and download texts.

## Main definitions

* `Workbench` — the files, the network and the settings.
* `Workbench.Kind` — the tools; `Workbench.Kind.info` and `Workbench.Kind.run`.
* `Workbench.tools` — the box with all of them.
-/

namespace AgentDesk

/-- What the tools work on. -/
structure Workbench where
  settings : WorkbenchSettings
  files : FileTree
  network : Network

namespace Workbench

/-- The tools of a workbench. -/
inductive Kind where
  | terminal
  | edit
  | download
  | fileSearch
  | contentSearch
  | listing
  | multiEdit
  | view
  | write
deriving Repr, BEq, DecidableEq

/-- All tools. -/
def Kind.all : List Kind :=
  [.terminal, .edit, .download, .fileSearch, .contentSearch, .listing, .multiEdit, .view, .write]

/-- What is told about a tool. -/
def Kind.info : Kind → ToolInfo
  | .terminal => Terminal.info
  | .edit => Edit.info
  | .download => Download.info
  | .fileSearch => FileSearch.info
  | .contentSearch => ContentSearch.info
  | .listing => Listing.info
  | .multiEdit => MultiEdit.info
  | .view => View.info
  | .write => Write.info

/-- The workbench with changed files behind a run. -/
def afterRun (w : Workbench) (r : ToolRun) : ToolOutcome × Workbench :=
  (r.1, { w with files := r.2 })

/-- Runs a tool; the caller may have canceled it before. -/
def Kind.run (kind : Kind) (canceled : Bool) (call : Invocation) (w : Workbench) :
    ToolOutcome × Workbench :=
  match kind with
  | .terminal => w.afterRun (Terminal.run w.settings canceled call w.files)
  | .edit => w.afterRun (Edit.run w.settings call w.files)
  | .download =>
    let (outcome, network) := Download.run canceled call w.network
    (outcome, { w with network })
  | .fileSearch => (FileSearch.run w.settings call w.files, w)
  | .contentSearch => (ContentSearch.run w.settings canceled call w.files, w)
  | .listing => (Listing.run w.settings call w.files, w)
  | .multiEdit => w.afterRun (MultiEdit.run w.settings call w.files)
  | .view => (View.run w.settings call w.files, w)
  | .write => w.afterRun (Write.run w.settings call w.files)

/-- The box with all tools. -/
def tools : ToolBox Kind := ToolBox.ofList (Kind.all.map fun k => (k.info, k))

end Workbench

end AgentDesk
