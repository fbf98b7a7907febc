import PluginBundle.Files.Disk

/-!
# Differences between disks

What has to be done to one disk so that it holds what another one holds: directories to make and
files to write, in the order of the second disk's entries from the root on, and files to remove.
Directories are never removed.
-/

namespace PluginBundle

/-- Something to do to a disk. -/
inductive DiskChange where
  | makeDirectory (place : Place)
  | write (place : Place) (contents : ByteArray)
  | remove (place : Place)

namespace Disk

/-- What makes the entry of a place out of what stands there before. -/
def changeTo (before : Disk) (place : Place) (entry : Entry) : Option DiskChange :=
  match entry, before.find? place with
  | .directory, some .directory => none
  | .directory, _ => some (.makeDirectory place)
  | .file contents _, some (.file old _) =>
      if contents.toList == old.toList then none else some (.write place contents)
  | .file contents _, _ => some (.write place contents)

/-- The change for a file that is gone. -/
def removal (after : Disk) (place : Place) (entry : Entry) : Option DiskChange :=
  match entry, after.find? place with
  | .file _ _, none => some (.remove place)
  | _, _ => none

/-- What leads from one disk to another. -/
def changes (before after : Disk) : List DiskChange :=
  let shortFirst := after.entries.mergeSort fun a b => a.1.length ≤ b.1.length
  shortFirst.filterMap (fun e => before.changeTo e.1 e.2)
    ++ before.entries.filterMap fun e => after.removal e.1 e.2

end Disk

end PluginBundle
