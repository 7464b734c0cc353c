import RemoteMounts.Text.Quoted

/-!
# Why a request is rejected

The causes for which a mount is rejected before anything outside is asked.  `Invalid.message` words
each of them for the person who wrote the request.
-/

namespace RemoteMounts

/-- What a text lacks to be an ARN at all. -/
inductive ArnFlaw
  | noPrefix
  | tooFewSections
deriving DecidableEq, Inhabited, Repr

/-- A cause for which a request is rejected. -/
inductive Invalid
  /-- Neither a cluster nor a way to obtain credentials is named. -/
  | noCredentials
  | emptyField (field : String)
  /-- The value holds a blank, a quote, a backslash, a slash or an at sign. -/
  | badCharacters (field value : String)
  | notAnArn (flaw : ArnFlaw)
  | notAProfile (arn : String)
  | badDirectory (value : String)
  | badMountName (value : String)
  /-- An instance profile stands beside access keys. -/
  | mixedCredentials
  /-- Only a part of an access key pair is given. -/
  | partialAccessKeys
  | badSecret (scope key : String)
  /-- An extra setting would replace one that is there already. -/
  | takenSetting (key : String)
  | badSettingPrefix (value : String)
  | noSource
  | manySources (count : Nat)
deriving DecidableEq, Inhabited, Repr

def ArnFlaw.message : ArnFlaw → String
  | .noPrefix => "invalid prefix"
  | .tooFewSections => "not enough sections"

namespace Invalid

def message : Invalid → String
  | noCredentials => "Either cluster_id or instance_profile must be specified"
  | emptyField field => field ++ " must not be empty"
  | badCharacters field value => field ++ " contains invalid characters: " ++ Text.quoted value
  | notAnArn flaw => "arn: " ++ flaw.message
  | notAProfile arn => arn ++ " is not an instance profile ARN"
  | badDirectory value => "directory " ++ Text.quoted value ++ " must start with '/'"
  | badMountName value =>
    "invalid mount name " ++ Text.quoted value ++ ": use letters, digits, '_', '-' or '.'"
  | mixedCredentials => "instance_profile and access keys are mutually exclusive"
  | partialAccessKeys => "access_key, secret_scope and secret_key must be specified together"
  | badSecret scope key =>
    "invalid secret reference " ++ Text.quoted scope ++ "/" ++ Text.quoted key
  | takenSetting key => "extra config key " ++ key ++ " conflicts with a generated key"
  | badSettingPrefix value =>
    "spark_conf_prefix must be either 'fs.adl' or 'dfs.adls', got " ++ Text.quoted value
  | noSource => "exactly one storage source must be declared, found none"
  | manySources count => "exactly one storage source must be declared, found " ++ toString count

end Invalid

end RemoteMounts
