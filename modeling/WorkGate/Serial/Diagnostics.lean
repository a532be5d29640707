/-
# Diagnostic lines of the Worker (web/worker-serial-diagnostics.ts,
web/worker-core-dump-diagnostics.ts, web/worker-preparation-diagnostics.ts)

The Worker mixes lines of closed grammars into what it sends.  A line that follows one of them is
read into a record; every other line is dropped.  A record is only taken back when the line its
fields spell is read into that very record.
-/

import Mathlib.Algebra.Group.Int.Defs
import WorkGate.Library.CodeUnits

namespace WorkGate

open WorkGate.Library

/-- A field of an observation. -/
inductive DiagnosticField
  | text (value : String)
  | number (value : ℤ)
  | flag (value : Bool)
  deriving DecidableEq

/-- `WorkerSerialDiagnostic`, as its entries. -/
abbrev WorkerSerialDiagnostic := List (String × DiagnosticField)

/-- `String(value[key])`. -/
def diagnosticText (value : WorkerSerialDiagnostic) (key : String) : String :=
  match value.lookup key with
  | none => "undefined"
  | some (.text text) => text
  | some (.number number) => number.repr
  | some (.flag flag) => if flag then "true" else "false"

/-- `value[key] === text`. -/
def diagnosticIs (value : WorkerSerialDiagnostic) (key text : String) : Bool :=
  value.lookup key == some (.text text)

/-- `typeof value[key] === "number"`, and which. -/
def maybeNumber (value : WorkerSerialDiagnostic) (key : String) : Option ℤ :=
  match value.lookup key with
  | some (.number number) => some number
  | _ => none

/-- `sameRecord`. -/
def sameRecord (left right : WorkerSerialDiagnostic) : Bool :=
  left.length == right.length && right.all fun entry => left.lookup entry.1 == some entry.2

/-- `text.split(separator)`. -/
def splitText (separator : Char) : List Char → List (List Char)
  | [] => [[]]
  | character :: rest =>
      if character = separator then [] :: splitText separator rest
      else match splitText separator rest with
        | [] => [[character]]
        | first :: others => (character :: first) :: others

/-! ## Grammars -/

/-- What a field of a line may be. -/
inductive FieldPattern
  | oneOf (alternatives : List String)
  | digits (most : ℕ)
  | signed (most : ℕ)
  | hex (count : ℕ)
  | orUnavailable (pattern : FieldPattern)

def isLowerHex (character : Char) : Bool :=
  character.isDigit || ('a' ≤ character && character ≤ 'f')

/-- One to `most` digits. -/
def isDigits (most : ℕ) (text : List Char) : Bool :=
  text.all Char.isDigit && 1 ≤ text.length && text.length ≤ most

def FieldPattern.accepts : FieldPattern → List Char → Bool
  | .oneOf alternatives, text => alternatives.any fun alternative => alternative.toList == text
  | .digits most, text => isDigits most text
  | .signed most, '-' :: text => isDigits most text
  | .signed most, text => isDigits most text
  | .hex count, text => text.all isLowerHex && text.length == count
  | .orUnavailable pattern, text => text == "unavailable".toList || pattern.accepts text

/-- A token of a line: a fixed one, or a field behind its marker. -/
inductive GrammarToken
  | literal (text : String)
  | field (marker name : String) (pattern : FieldPattern) (numeric : Bool)

/-- A field that stays text. -/
def keyed (name : String) (pattern : FieldPattern) : GrammarToken :=
  .field (name ++ "=") name pattern false

/-- A field that is read as a number. -/
def counted (name : String) (pattern : FieldPattern) : GrammarToken :=
  .field (name ++ "=") name pattern true

/-- `Grammar`. -/
structure Grammar where
  category : String
  tokens : List GrammarToken

/-- A line of a grammar with fields between a head and the closing mark. -/
def grammarOf (category : String) (head : List String) (fields : List GrammarToken) : Grammar where
  category := category
  tokens := head.map .literal ++ fields ++ [.literal "redacted=true"]

/-- `stages`. -/
def startupStages : List String :=
  ["early_identity", "usb_install", "nvs", "hardware", "worker_recovery", "runtime_services",
    "storage_http", "network", "worker_control", "statistics", "runtime_ready"]

/-- `allocationStages`. -/
def allocationStages : List String :=
  ["early_identity", "hardware", "runtime_services", "storage_http", "network", "usb_install",
    "statistics", "runtime_ready"]

/-- `grammars`. -/
def diagnosticGrammars : List Grammar :=
  [grammarOf "statistics_startup" ["statistics_startup", "schema=v1"]
      [keyed "state" (.oneOf ["prepared", "active", "cancelled", "spawn_failed", "config_failed"]),
        counted "errno" (.orUnavailable (.signed 10)), counted "stack_bytes" (.oneOf ["8192"]),
        counted "stack_caps" (.orUnavailable (.digits 10)),
        counted "before_free_bytes" (.orUnavailable (.digits 10)),
        counted "before_largest_block_bytes" (.orUnavailable (.digits 10)),
        counted "after_free_bytes" (.orUnavailable (.digits 10)),
        counted "after_largest_block_bytes" (.orUnavailable (.digits 10))],
    grammarOf "worker_admission" ["worker_admission", "schema=v1"]
      [keyed "stage" (.oneOf ["idle", "admission", "readiness", "preparation", "pool_activation",
          "active", "cleanup", "complete"]),
        keyed "first_failure" (.oneOf ["none", "admission", "readiness", "preparation",
          "pool_activation", "cleanup"]),
        counted "readiness" (.digits 2), counted "budget_reserved_ms" (.digits 6),
        keyed "budget_complete" (.oneOf ["true", "false"])],
    { category := "control_failure"
      tokens := [.field "" "error" (.oneOf ["invalid_frame", "invalid_request",
        "admission_required", "invalid_proof", "authentication_failed", "invalid_transition",
        "persistence_failed", "monotonic_reset", "session_failed", "restoration_pending",
        "stale_response", "encoding_failed"]) false] },
    grammarOf "serial_rx_failure" ["usb_rx_failure", "schema=v1"]
      [keyed "stage" (.oneOf ["read", "framing", "envelope", "sequence", "heartbeat_payload",
          "heartbeat_timeout", "control_allocation", "control_queue", "unexpected_kind",
          "session_revoked", "integrity", "receive_counter"]),
        counted "observed_bytes" (.digits 5)],
    grammarOf "storage_http_failure" ["storage_http_failure", "schema=v1"]
      [keyed "phase" (.oneOf ["spiffs_register", "spiffs_info", "http_netif",
          "http_deferred_worker", "http_server", "http_routes", "http_telemetry_worker"]),
        keyed "error" (.oneOf ["no_memory", "not_found", "invalid_state", "invalid_argument",
          "mount_failed", "handler_exists", "handlers_full", "http_task", "socket_setup",
          "timeout", "io_error", "other"])],
    grammarOf "storage_http_status" ["storage_http_status", "schema=v1"]
      [keyed "spiffs_available" (.oneOf ["true", "false"]),
        keyed "http_ready" (.oneOf ["true", "false"])],
    grammarOf "serial_tx_failure" ["usb_tx_failure", "schema=v1"]
      [keyed "stage" (.oneOf ["write", "write_timeout", "flush_timeout", "cancelled"]),
        counted "elapsed_ms" (.digits 10), counted "queued_bytes" (.digits 5),
        counted "record_bytes" (.digits 5)],
    grammarOf "network_failure" ["wifi_startup_failure", "schema=v1"]
      [keyed "phase" (.oneOf ["netif", "event_loop", "driver", "ap_configuration",
          "station_configuration", "driver_start", "ap_netif", "station_netif", "captive_dns",
          "owner_install", "reconnect_subscription", "reconnect_spawn"]),
        keyed "error" (.oneOf ["no_memory", "invalid_state", "timeout", "driver_error",
          "io_error", "owner_error"])],
    grammarOf "startup" ["usb_startup", "schema=v1"]
      [keyed "stage" (.oneOf startupStages),
        keyed "state" (.oneOf ["entered", "failed", "complete"]),
        keyed "first_failure" (.oneOf ("none" :: startupStages)), counted "uptime_ms" (.digits 16)],
    grammarOf "runtime_identity" ["usb_runtime_identity", "schema=v1"]
      [keyed "firmware_commit" (.hex 40), keyed "app_elf_sha256" (.hex 64)],
    grammarOf "boot" ["usb_reboot_discriminator", "schema=v1"]
      [counted "boot_ordinal" (.digits 16),
        keyed "reset_reason" (.oneOf ["power_on", "software_cpu", "watchdog", "panic", "brownout",
          "other"]),
        counted "uptime_ms" (.digits 16)],
    grammarOf "memory" ["usb_memory_checkpoint"]
      [keyed "stage" (.oneOf ["worker_owner_prepare", "usb_install", "usb_installed",
          "statistics_start", "statistics_started", "wifi_driver_prepare",
          "wifi_driver_prepared"]),
        counted "free_bytes" (.digits 10), counted "largest_block_bytes" (.digits 10),
        counted "reserve_bytes" (.digits 10)],
    grammarOf "startup_failure" ["bwg_worker_start_failure", "category=startup_failed"]
      [keyed "detail" (.oneOf ["owner_spawn", "usb_install", "control_owner"])],
    grammarOf "allocation_failure" ["allocation_failure_receipt", "schema=v1"]
      [counted "requested_bytes" (.digits 10), keyed "capabilities" (.hex 8)],
    grammarOf "allocation_context" ["allocation_failure_context", "schema=v1"]
      [counted "requested_bytes" (.digits 10), keyed "capabilities" (.hex 8),
        keyed "source_hash" (.hex 16), keyed "stage" (.oneOf allocationStages)],
    grammarOf "worker_revocation_detail" ["worker_revocation_detail", "schema=v1"]
      [counted "generation" (.digits 10), keyed "reason" (.oneOf ["unsafe_observation"]),
        keyed "trigger" (.oneOf ["unsafe_sample", "zero_fan", "no_safe_sample"]),
        keyed "fact" (.oneOf ["none", "power", "bus_voltage", "current", "chip_temperature",
          "fan_rpm"]),
        keyed "state" (.oneOf ["none", "expired", "stale", "unavailable", "fault",
          "out_of_range"]),
        counted "value_milli" (.orUnavailable (.signed 10)),
        counted "age_ms" (.orUnavailable (.digits 10)), counted "since_safe_ms" (.digits 10),
        counted "closed_ms" (.digits 10)],
    grammarOf "panic" ["rust_panic_receipt", "schema=v1"]
      [keyed "file_hash" (.hex 8), counted "line" (.digits 10)]]

/-- `Number(text)` of an optional sign and digits. -/
def numberOf : List Char → ℤ
  | '-' :: digits => -(Nat.ofDigitChars 10 digits 0 : ℤ)
  | digits => (Nat.ofDigitChars 10 digits 0 : ℤ)

/-- The fields of the tokens of a line, with whether they are numeric; none where the line does
not follow the grammar. -/
def matchTokens : List GrammarToken → List (List Char) → Option (List (String × Bool × List Char))
  | [], [] => some []
  | .literal text :: tokens, found :: rest =>
      if text.toList = found then matchTokens tokens rest else none
  | .field marker name pattern numeric :: tokens, found :: rest =>
      if marker.toList.isPrefixOf found && pattern.accepts (found.drop marker.length) then
        (matchTokens tokens rest).map fun fields =>
          (name, numeric, found.drop marker.length) :: fields
      else none
  | _, _ => none

def maximumDiagnosticInteger : ℤ := 2 ^ 53 - 1

/-- A field of a record, as its text is read. -/
def readField (category name : String) (numeric : Bool) (text : List Char) :
    Option DiagnosticField :=
  if numeric && text != "unavailable".toList then
    let number := numberOf text
    if (category = "statistics_startup" ∧ name = "errno") ∨ name = "value_milli" then
      if number < -2147483648 ∨ number > 2147483647 then none else some (.number number)
    else if number > maximumDiagnosticInteger ∨ number < 0 then none
    else if name ∉ ["uptime_ms", "boot_ordinal"] ∧ number > 0xffffffff then none
    else some (.number number)
  else some (.text (String.ofList text))

/-- The fields read in order, unless one of them cannot be. -/
def readFields (category : String) :
    List (String × Bool × List Char) → Option WorkerSerialDiagnostic
  | [] => some []
  | (name, numeric, text) :: fields =>
    match readField category name numeric text with
    | none => none
    | some field => (readFields category fields).map fun value => (name, field) :: value

/-- `revocationDetailConsistent`. -/
def revocationDetailConsistent (value : WorkerSerialDiagnostic) : Bool :=
  let factless := diagnosticIs value "fact" "none"
  let valueless := diagnosticIs value "value_milli" "unavailable" &&
    diagnosticIs value "age_ms" "unavailable"
  factless == diagnosticIs value "state" "none" && (!factless || valueless) &&
    (diagnosticIs value "trigger" "unsafe_sample" || factless) &&
    (!diagnosticIs value "state" "unavailable" || valueless)

/-- The sizes of a statistics line are all there, or none of them is. -/
def statisticsConsistent (value : WorkerSerialDiagnostic) : Bool :=
  ["stack_caps", "before_free_bytes", "before_largest_block_bytes", "after_free_bytes",
      "after_largest_block_bytes"].all (fun key =>
    if diagnosticIs value "state" "config_failed" then diagnosticIs value key "unavailable"
    else (maybeNumber value key).isSome) &&
  (diagnosticIs value "state" "spawn_failed" || diagnosticIs value "errno" "unavailable")

/-- The checks a record of a grammar is put to when its fields are read. -/
def diagnosticConsistent (value : WorkerSerialDiagnostic) : Bool :=
  let exceeds (key : String) (bound : ℤ) := (maybeNumber value key).any (bound < ·)
  (!diagnosticIs value "category" "statistics_startup" || statisticsConsistent value) &&
    (!diagnosticIs value "category" "worker_revocation_detail" ||
      revocationDetailConsistent value) &&
    !exceeds "readiness" 63 && !exceeds "budget_reserved_ms" 240000 &&
    !exceeds "observed_bytes" 66560 &&
    ["boot_ordinal", "requested_bytes", "line"].all (fun key => maybeNumber value key ≠ some 0) &&
    !(diagnosticIs value "state" "failed" && diagnosticIs value "first_failure" "none") &&
    (maybeNumber value "record_bytes").all fun bytes =>
      bytes ≤ 66560 && (maybeNumber value "queued_bytes").all (· ≤ bytes)

/-! ## Core dumps and preparation -/

def coreDumpOrigins : List String := ["current_boot", "previous_boot"]

def coreDumpInvalidStatuses : List String :=
  ["unavailable", "corrupt", "wrong_firmware", "wrong_boot"]

def coreDumpStages : List String :=
  ["ready", "store_entered", "init_entered", "init_returned", "prepare_entered",
    "prepare_returned", "start_entered", "start_returned", "end_entered", "end_returned",
    "store_returned"]

def coreDumpFields : List String :=
  ["source_hash", "boot_ordinal", "stage", "capacity_bytes", "requested_bytes", "prepared_bytes",
    "init_result", "prepare_result", "start_result", "end_result", "store_result",
    "self_test_marked"]

def coreDumpResults : List String :=
  ["init_result", "prepare_result", "start_result", "end_result", "store_result"]

/-- A number without leading zeros, of at most that many digits. -/
def isPlainNumeral (most : ℕ) : List Char → Bool
  | ['0'] => true
  | digits => isDigits most digits && digits.head? != some '0'

/-- A field of a core dump line. -/
def readCoreDumpField (field : String) (text : List Char) : Option DiagnosticField :=
  if field = "source_hash" then
    if (FieldPattern.hex 16).accepts text then some (.text (String.ofList text)) else none
  else if field = "boot_ordinal" then
    if isPlainNumeral 20 text && numberOf text ≤ 18446744073709551615 then
      some (.text (String.ofList text))
    else none
  else if field = "stage" then
    if (FieldPattern.oneOf coreDumpStages).accepts text then some (.text (String.ofList text))
    else none
  else if field = "self_test_marked" then
    if text = "true".toList then some (.flag true)
    else if text = "false".toList then some (.flag false)
    else none
  else if text = "unavailable".toList ∧
      (field ∈ coreDumpResults ∨ field ∈ ["requested_bytes", "prepared_bytes"]) then
    some (.text (String.ofList text))
  else if field ∈ coreDumpResults then
    let digits := if text.head? = some '-' then text.tail else text
    if isPlainNumeral 10 digits && !(text == "-0".toList) && -2147483648 ≤ numberOf text &&
        numberOf text ≤ 2147483647 then some (.number (numberOf text))
    else none
  else if isPlainNumeral 10 text && numberOf text ≤ 0xffffffff then some (.number (numberOf text))
  else none

/-- The fields of a core dump line, one token each. -/
def readCoreDumpFields : List String → List (List Char) → Option WorkerSerialDiagnostic
  | [], [_] => some []
  | field :: fields, token :: tokens =>
      let marker := field ++ "="
      if marker.toList.isPrefixOf token then
        match readCoreDumpField field (token.drop marker.length) with
        | none => none
        | some read => (readCoreDumpFields fields tokens).map fun value => (field, read) :: value
      else none
  | _, _ => none

/-- The text behind a marker, unless it is empty. -/
def maybeMarked (marker : String) (token : List Char) : Option String :=
  if marker.toList.isPrefixOf token && token.length > marker.length then
    some (String.ofList (token.drop marker.length))
  else none

/-- `maybeCoreDumpDiagnostic`. -/
def maybeCoreDumpDiagnostic (line : List Char) : Option WorkerSerialDiagnostic :=
  match splitText ' ' line with
  | first :: second :: third :: fourth :: rest =>
      if first = "core_dump_store_receipt".toList ∧ second = "schema=v1".toList ∧
          (fourth :: rest).getLast? = some "redacted=true".toList then
        match maybeMarked "origin=" third, maybeMarked "status=" fourth with
        | some origin, some status =>
            let value := [("category", DiagnosticField.text "core_dump_store_receipt"),
              ("authoritative", .flag false), ("origin", .text origin), ("status", .text status)]
            if origin ∉ coreDumpOrigins then none
            else if status ∈ coreDumpInvalidStatuses then
              if rest.length = 1 then some value else none
            else if status ≠ "valid" then none
            else (readCoreDumpFields coreDumpFields rest).map fun fields => value ++ fields
        | _, _ => none
      else none
  | _ => none

/-- `invalid`, the line of a receipt that holds nothing. -/
def preparationInvalid : List GrammarToken :=
  [.literal "worker_preparation_receipt", .literal "schema=v1",
    keyed "origin" (.oneOf ["current_boot", "previous_boot"]),
    keyed "status" (.oneOf ["incomplete", "corrupt", "unavailable", "wrong_firmware"]),
    .literal "redacted=true"]

/-- `valid`. -/
def preparationValid : List GrammarToken :=
  [.literal "worker_preparation_receipt", .literal "schema=v1",
    keyed "origin" (.oneOf ["current_boot", "previous_boot"]), .literal "status=valid",
    keyed "interrupted" (.oneOf ["true", "false"]), keyed "source_hash" (.hex 16),
    keyed "boot_ordinal" (.digits 20), counted "generation" (.digits 10),
    counted "sequence" (.digits 10), keyed "uptime_ms" (.digits 20),
    counted "last_completed_step" (.digits 1),
    counted "current_step" (.oneOf ["1", "2", "3", "4", "5", "6", "7", "8", "9"]),
    keyed "outcome" (.oneOf ["started", "completed", "failed"]),
    keyed "failure" (.oneOf ["none", "cancelled", "safety_unavailable", "owner_unavailable",
      "queue_full", "reply_timeout", "hardware_write_failed", "fan_timeout",
      "unsupported_profile", "asic_failed", "asic_plan_invalid", "cooling_timeout",
      "cooling_proof_required"]),
    counted "heap_free" (.orUnavailable (.digits 10)),
    counted "heap_largest" (.orUnavailable (.digits 10)),
    counted "stack_free" (.orUnavailable (.digits 10)), .literal "redacted=true"]

/-- A field of a preparation receipt; counters of 64 bits stay text. -/
def readPreparationField (name : String) (numeric : Bool) (text : List Char) :
    Option DiagnosticField :=
  if name ∈ ["boot_ordinal", "uptime_ms"] then
    if numberOf text > 18446744073709551615 then none else some (.text (String.ofList text))
  else if numeric && text != "unavailable".toList then
    if numberOf text > 0xffffffff then none else some (.number (numberOf text))
  else some (.text (String.ofList text))

/-- The fields of a preparation receipt. -/
def readPreparationFields : List (String × Bool × List Char) → Option WorkerSerialDiagnostic
  | [] => some []
  | (name, numeric, text) :: fields =>
    match readPreparationField name numeric text with
    | none => none
    | some field => (readPreparationFields fields).map fun value => (name, field) :: value

/-- The steps of a receipt fit its outcome. -/
def preparationConsistent (value : WorkerSerialDiagnostic) : Bool :=
  let completed := (maybeNumber value "last_completed_step").getD 0
  let current := (maybeNumber value "current_step").getD 0
  let outcome := diagnosticIs value "outcome"
  !((outcome "started" && current ≤ completed) || (outcome "completed" && completed != current) ||
      (outcome "failed" && current < completed)) &&
    outcome "failed" != diagnosticIs value "failure" "none"

/-- `maybePreparationDiagnostic`. -/
def maybePreparationDiagnostic (line : List Char) : Option WorkerSerialDiagnostic :=
  let tokens := splitText ' ' line
  let head := [("category", DiagnosticField.text "worker_preparation_receipt"),
    ("authoritative", .flag false)]
  match matchTokens preparationInvalid tokens with
  | some fields => some (head ++ fields.map fun field =>
      (field.1, .text (String.ofList field.2.2)))
  | none =>
    match matchTokens preparationValid tokens with
    | none => none
    | some fields =>
      match readPreparationFields fields with
      | none => none
      | some value =>
          if preparationConsistent value then
            some (head ++ ("status", .text "valid") :: value)
          else none

/-! ## Reading and taking back -/

/-- The first grammar the tokens follow, with the fields. -/
def firstMatch (tokens : List (List Char)) :
    List Grammar → Option (Grammar × List (String × Bool × List Char))
  | [] => none
  | grammar :: grammars =>
    match matchTokens grammar.tokens tokens with
    | some fields => some (grammar, fields)
    | none => firstMatch tokens grammars

/-- `maybeWorkerSerialDiagnostic`. -/
def maybeWorkerSerialDiagnostic (line : List Char) : Option WorkerSerialDiagnostic :=
  if (line.flatMap CodeUnits.ofChar).length > 1024 then none
  else match maybeCoreDumpDiagnostic line with
    | some value => some value
    | none =>
      match maybePreparationDiagnostic line with
      | some value => some value
      | none =>
        match firstMatch (splitText ' ' line) diagnosticGrammars with
        | none => none
        | some (grammar, fields) =>
          match readFields grammar.category fields with
          | none => none
          | some read =>
              let value := ("category", .text grammar.category) :: ("authoritative", .flag false) ::
                read
              if diagnosticConsistent value then some value else none

/-- The line a record spells under a grammar. -/
def spelledLine (tokens : List GrammarToken) (value : WorkerSerialDiagnostic) : List Char :=
  [' '].intercalate (tokens.map fun token =>
    match token with
    | .literal text => text.toList
    | .field marker name _ _ => marker.toList ++ (diagnosticText value name).toList)

/-- `maybeCoreDumpExport`, as the line it spells. -/
def coreDumpLine (value : WorkerSerialDiagnostic) : List Char :=
  let fields := if diagnosticIs value "status" "valid" then coreDumpFields else []
  [' '].intercalate (["core_dump_store_receipt".toList, "schema=v1".toList] ++
    (["origin", "status"] ++ fields).map (fun field =>
      (field ++ "=" ++ diagnosticText value field).toList) ++ ["redacted=true".toList])

/-- `maybePreparationExport`, as the line it spells. -/
def preparationLine (value : WorkerSerialDiagnostic) : List Char :=
  if diagnosticIs value "status" "valid" then spelledLine preparationValid value
  else spelledLine preparationInvalid value

/-- The record, if its line is read into it. -/
def reread (value : WorkerSerialDiagnostic) (maybeParsed : Option WorkerSerialDiagnostic) :
    Option WorkerSerialDiagnostic :=
  maybeParsed.filter (sameRecord value)

/-- `maybeValidatedDiagnostic`. -/
def maybeValidatedDiagnostic (value : WorkerSerialDiagnostic) : Option WorkerSerialDiagnostic :=
  if diagnosticIs value "category" "core_dump_store_receipt" then
    match reread value (maybeCoreDumpDiagnostic (coreDumpLine value)) with
    | some parsed => some parsed
    | none => none
  else if diagnosticIs value "category" "worker_preparation_receipt" then
    reread value (maybePreparationDiagnostic (preparationLine value))
  else
    (diagnosticGrammars.filter fun grammar =>
      diagnosticIs value "category" grammar.category).findSome? fun grammar =>
        reread value (maybeWorkerSerialDiagnostic (spelledLine grammar.tokens value))

/-- The boot line of the Worker, read and taken back. -/
example : (maybeWorkerSerialDiagnostic ("usb_reboot_discriminator schema=v1 boot_ordinal=2 " ++
    "reset_reason=software_cpu uptime_ms=50 redacted=true").toList >>= maybeValidatedDiagnostic) =
    some [("category", .text "boot"), ("authoritative", .flag false), ("boot_ordinal", .number 2),
      ("reset_reason", .text "software_cpu"), ("uptime_ms", .number 50)] := by
  decide +kernel

end WorkGate
