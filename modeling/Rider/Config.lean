import Rider.Config.Settings
set_option autoImplicit false

namespace Rider

structure Config where
  -- How many lines are shown before and after a failing line.
  contextLines : Nat
  -- Whether the data are shown when a handler fails.
  dumpHeap : Bool
  -- What marks ignored lines in a log.
  marker : String
deriving DecidableEq, Repr

inductive ConfigError
  | unreadable
  | malformed
deriving DecidableEq, Repr

namespace Config

def default : Config := ⟨2, true, "[W] Statement ignored at line"⟩

def set (c : Config) : String × Setting → Option Config
  | ("context_lines", .integer n) => if 0 ≤ n then some { c with contextLines := n.toNat } else none
  | ("dump_heap", .bool b) => some { c with dumpHeap := b }
  | ("ignored_marker", .text s) => some { c with marker := s }
  | _ => none

/-- The configuration that a document describes. A name that is left out has its default, and no name
may occur twice. -/
def ofText (text : String) : Except ConfigError Config :=
  match Setting.ofText? text with
  | none => .error .malformed
  | some settings =>
    if (settings.map Prod.fst).eraseDups.length = settings.length then
      match settings.foldlM Config.set default with
      | some c => .ok c
      | none => .error .malformed
    else .error .malformed

def ofFile (bytes : Option ByteArray) : Except ConfigError Config :=
  match bytes.bind String.fromUTF8? with
  | some text => ofText text
  | none => .error .unreadable

end Config

end Rider
