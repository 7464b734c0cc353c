import RemoteMounts.Datum
import RemoteMounts.Mount.Storage

/-!
# Scripts

What is done to a mount is done by a script that runs on the cluster.  Every text that a script
embeds is written as a JSON literal on a single line, which the script's language reads as the same
text, so no text can end a literal or begin another line.
-/

namespace RemoteMounts

namespace Script

/-- What a script says when nothing is mounted at the path. -/
def notMounted : String := "Mount not found"

/-- What a script returns when the path has been cleared. -/
def success : String := "success"

/-- The lines as a text, each with its line feed. -/
def unlines (lines : List String) : String :=
  String.join (lines.map fun line => line ++ "\n")

/-- How the line begins that calls the mounting function. -/
def callFront : String := "mount_source = safe_mount("

/-- How the line begins that sets the path to clear. -/
def pathFront : String := "mount_point = "

/-- How the line begins that looks for the path. -/
def matchFront : String := "    if mount.mountPoint == "

def callLine (path : String) (args : MountArgs) : String :=
  callFront ++ Json.literal path ++ ", " ++ Json.literal args.uri ++ ", " ++
    (Datum.ofTexts args.settings).compact ++ ")"

/-- The lines that define the mounting function.  What is mounted at the path already stays; a mount
that fails is taken away again. -/
def definition : List String :=
  ["def safe_mount(mount_point, mount_source, configs):",
    "    for mount in dbutils.fs.mounts():",
    "        if mount.mountPoint == mount_point:",
    "            return mount.source",
    "    try:",
    "        dbutils.fs.mount(mount_source, mount_point, extra_configs=configs)",
    "        dbutils.fs.refreshMounts()",
    "        dbutils.fs.ls(mount_point)",
    "        return mount_source",
    "    except Exception as e:",
    "        try:",
    "            dbutils.fs.unmount(mount_point)",
    "        except Exception as e2:",
    "            print(\"Failed to unmount\", e2)",
    "        raise e",
    ""]

/-- Mounts the storage at the path and returns what is mounted there then. -/
def create (path : String) (args : MountArgs) : String :=
  unlines (definition ++ [callLine path args, "dbutils.notebook.exit(mount_source)"])

/-- Returns what is mounted at the path, or raises an error if nothing is. -/
def read (path : String) : String :=
  unlines
    ["dbutils.fs.refreshMounts()",
      "for mount in dbutils.fs.mounts():",
      matchFront ++ Json.literal path ++ ":",
      "        dbutils.notebook.exit(mount.source)",
      "raise Exception(" ++ Json.literal notMounted ++ ")"]

/-- Clears the path, whether anything is mounted there or not. -/
def delete (path : String) : String :=
  unlines
    [pathFront ++ Json.literal path,
      "dbutils.fs.refreshMounts()",
      "if any(mount.mountPoint == mount_point for mount in dbutils.fs.mounts()):",
      "    dbutils.fs.unmount(mount_point)",
      "    dbutils.fs.refreshMounts()",
      "dbutils.notebook.exit(" ++ Json.literal success ++ ")"]

end Script

end RemoteMounts
