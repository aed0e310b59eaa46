/-
# Opening a press

A press is opened with settings, a browser, and what is found in the directory
of templates.  Settings are validated before anything is loaded.
-/

import CanvasPress.Press.Clock
import CanvasPress.Template.Directory

namespace CanvasPress.Press

/-- What prevents a press from opening. -/
inductive OpenFault where
  | fault (cause : Fault)
  /-- The governor cannot count so many slots; opening dies with this report. -/
  | panic (report : String)

/-- The surroundings of a press. -/
structure Surroundings extends Tools where
  /-- What is found under the path of the templates. -/
  templates : Listing
  /-- Why copies of artifacts cannot be written, if they cannot. -/
  shelfFault : Option FileFault
  epoch : Timestamp

/-- The store that settings ask for. -/
def storeFor (settings : Settings) (listing : Listing) : Except Fault Template.Store :=
  match settings.templatesPath with
  | some _ => Template.Store.load listing
  | none => .ok .empty

/-- What loading that store reports. -/
def storeLog (settings : Settings) (listing : Listing) : List LogLine :=
  match settings.templatesPath with
  | some path => Template.loadLog path listing
  | none => []

/-- Open a press. -/
def openWith (settings : Settings) (around : Surroundings) : Except OpenFault (Studio × State) :=
  match settings.validate with
  | .error cause => .error (.fault (.config cause))
  | .ok () =>
    match storeFor settings around.templates with
    | .error cause => .error (.fault cause)
    | .ok templates =>
      match Governor.make settings.maxConcurrentRenders settings.maxQueueDepth with
      | .error report => .error (.panic report)
      | .ok governor =>
        .ok (⟨around.toTools, settings, templates, around.shelfFault, around.epoch⟩,
          State.fresh settings governor)

/-- What opening a press reports. -/
def openLog (settings : Settings) (around : Surroundings) : List LogLine :=
  match settings.validate with
  | .error _ => []
  | .ok () => storeLog settings around.templates

end CanvasPress.Press
