/-
# A disk in memory

Commands can run on a tree of files instead of a machine.  The tree afterwards
tells what they wrote.
-/

import CanvasPress.CommandLine.Run
import CanvasPress.Storage.Tree

namespace CanvasPress.CommandLine

/-- The disk that is a tree of files; reports go nowhere. -/
def Disk.memory : Disk (StateM FileTree) where
  read path := do return (← get).read path
  list path := do return (← get).list path
  obstacle path := do return (← get).obstacle path
  write path body := modify fun tree => tree.write path body
  report _ := pure ()

/-- Do what the words of a command line ask for on a tree of files. -/
def runOn (tree : FileTree) (host : Host) (words : List String) : Ending × FileTree :=
  (run Disk.memory host words).run tree

end CanvasPress.CommandLine
