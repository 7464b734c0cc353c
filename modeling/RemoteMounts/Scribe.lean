import RemoteMounts.Datum

/-!
# Scribes

Documents are read and written by others.  How they lay out numbers and what they say of a document
that makes no sense is theirs: nothing is known of the words but what they are said of.
-/

namespace RemoteMounts

structure Scribe where
  layout : Json.Layout := .usual
  /-- What is said of the text of a reply from an endpoint. -/
  reply (endpoint body : String) : String := ""
  /-- What is said of the text of a file that is no declaration. -/
  declaration (text : String) : String := ""
  /-- What is said of the paths of files of settings that are there, none of which can be read. -/
  files (paths : List String) : String := ""
  /-- What is said of what the environment and the file set, if no settings are made of it. -/
  settings (environment file : List (String × Datum)) : String := ""
  /-- What is said of the text of arguments that are no list. -/
  arguments (text : String) : String := ""
deriving Inhabited

end RemoteMounts
