import ServerPower.CommandLine.Arguments
import ServerPower.Settings

/-!
# Options of the tool

The options outside the groups that the tool has: those that say where its settings are, and those
of the log. Some of them have flags. What the flags set is checked before anything is done.
-/

namespace ServerPower.CommandLine

def helpFlag : Flag := { name := "--help", option := "help", use := .help, aliases := ["-h"] }

/-- The flags that say where the settings are, what is logged, and how. -/
def optionFlags (places : Places) : List Flag :=
  [{ name := "--config-file", option := "config_file", use := .file places },
    { name := "--config-dir", option := "config_dir", use := .directory places },
    { name := "--debug", option := "debug", use := .toggle true, aliases := ["-d"] },
    { name := "--nodebug", option := "debug", use := .toggle false },
    { name := "--log-config-append", option := "log_config_append", use := .text,
      aliases := ["--log-config", "--log_config"] },
    { name := "--log-date-format", option := "log_date_format", use := .text },
    { name := "--log-dir", option := "log_dir", use := .text, aliases := ["--logdir"] },
    { name := "--log-file", option := "log_file", use := .text, aliases := ["--logfile"] },
    { name := "--shell_completion", option := "shell_completion", use := .text },
    { name := "--syslog-log-facility", option := "syslog_log_facility", use := .text },
    { name := "--use-journal", option := "use_journal", use := .toggle true },
    { name := "--nouse-journal", option := "use_journal", use := .toggle false },
    { name := "--use-json", option := "use_json", use := .toggle true },
    { name := "--nouse-json", option := "use_json", use := .toggle false },
    { name := "--use-syslog", option := "use_syslog", use := .toggle true },
    { name := "--nouse-syslog", option := "use_syslog", use := .toggle false }]

/-- The options that have flags, in the order in which what is given for them is checked. -/
def flaggedOptions : List CommonOption :=
  [{ name := "config_dir", value := .list [] },
    { name := "config_file", value := .list [] },
    { name := "debug", value := .bool false },
    { name := "log_config_append" },
    { name := "log_date_format", value := .text "%Y-%m-%d %H:%M:%S" },
    { name := "log_dir" },
    { name := "log_file" },
    { name := "shell_completion", choices := ["bash", "zsh"] },
    { name := "syslog_log_facility", value := .text "LOG_USER" },
    { name := "use_journal", value := .bool false },
    { name := "use_json", value := .bool false },
    { name := "use_syslog", value := .bool false }]

/-- The beginning of a line of the log that says when and where something happened. -/
def lineStart : String := "%(asctime)s.%(msecs)03d %(process)d "

def unflaggedOptions : List CommonOption :=
  [{ name := "command", value := .text "<command>" },
    { name := "config_source", value := .list [] },
    { name := "default_log_levels",
      value := .list [.text "requests=WARNING", .text "urllib3.connectionpool=WARNING",
        .text "stevedore=INFO"] },
    { name := "instance_format", value := .text "[instance: %(uuid)s] " },
    { name := "instance_uuid_format", value := .text "[instance: %(uuid)s] " },
    { name := "log_color", value := .bool false },
    { name := "log_rotate_interval", value := .int 1 },
    { name := "log_rotate_interval_type", value := .text "days" },
    { name := "log_rotation_type", value := .text "none" },
    { name := "logging_context_format_string",
      value := .text (lineStart ++ "%(levelname)s %(name)s [%(global_request_id)s " ++
        "%(request_id)s %(user_identity)s] %(instance)s%(message)s") },
    { name := "logging_debug_format_suffix",
      value := .text "%(funcName)s %(pathname)s:%(lineno)d" },
    { name := "logging_default_format_string",
      value := .text (lineStart ++ "%(levelname)s %(name)s [-] %(instance)s%(message)s") },
    { name := "logging_exception_prefix",
      value := .text (lineStart ++ "ERROR %(name)s %(instance)s") },
    { name := "logging_user_identity_format",
      value := .text ("%(user)s %(project)s %(domain)s %(system_scope)s %(user_domain)s " ++
        "%(project_domain)s") },
    { name := "max_logfile_count", value := .int 30 },
    { name := "max_logfile_size_mb", value := .int 200 },
    { name := "publish_errors", value := .bool false },
    { name := "rate_limit_burst", value := .int 0 },
    { name := "rate_limit_except_level", value := .text "CRITICAL" },
    { name := "rate_limit_interval", value := .int 0 },
    { name := "use_stderr", value := .bool false }]

def formerNames : List String := ["log_config", "logdir", "logfile"]

def withGiven (given : Values) (option : CommonOption) : CommonOption :=
  match given.lookup option.name with
  | some v => { option with value := v }
  | none => option

/-- Checks the value of an option: its placeholders, and whether it is one of the choices. -/
def checkGiven (settings : Settings) (option : CommonOption) : Except Usage Unit := do
  let v ← (settings.readCommon option).mapError .failed
  let _ ← (option.check v).mapError fun _ => Usage.notChosen

/-- The settings of the tool, with the options given on the command line. -/
def configure (places : Places) (settings : Settings) (given : Values) : Except Usage Settings := do
  let common := (flaggedOptions ++ unflaggedOptions).map (withGiven given)
  let settings := { settings with common, formerNames }
  (common.filter fun option => (given.lookup option.name).isSome).forM (checkGiven settings)
  (places.checkFiles (given.texts "config_file")).mapError .failed
  return settings

end ServerPower.CommandLine
