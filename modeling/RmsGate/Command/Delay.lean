import RmsGate.Go.Scan
import RmsGate.DynamicServer.IdleShutdown
import RmsGate.DynamicServer.Readiness

/-!
# The `/dserver delay` command

`cmdDelay` sets or clears the protection period of a managed server.  `parseTimeString` reads
its time argument: a last byte `s`, `m` or `h` selects the unit and is cut off, the rest goes
through `fmt.Sscanf` with `%d`, and the number times the unit is an `int` product, which wraps.
What the command does to the server is an event of the idle-shutdown machine.  Of its messages
on success, the second prints the wall clock and is left out.
A string is the list of its characters; the units are ASCII, so the last byte is the last
character when it is one of them.
-/

namespace RmsGate.Command

open RmsGate.Go RmsGate.DynamicServer

/-- `parseTimeString`; `none` stands for both of its errors, "empty string" and that of
`Sscanf`, which its one caller only tests against nil. -/
def parseTimeString (s : List Char) : Option Int :=
  match s.getLast? with
  | none => none
  | some lastChar =>
      let (multiplier, numStr) : Int × List Char :=
        match lastChar with
        | 's' => (1, s.dropLast)
        | 'm' => (60, s.dropLast)
        | 'h' => (3600, s.dropLast)
        | _ => (1, s)
      (scanInt numStr).map fun num => toInt64 (num * multiplier)

def formatDuration (seconds : Int) : String :=
  if seconds ≥ 3600 ∧ seconds % 3600 = 0 then toString (seconds / 3600) ++ " hour(s)"
  else if seconds ≥ 60 ∧ seconds % 60 = 0 then toString (seconds / 60) ++ " minute(s)"
  else toString seconds ++ " second(s)"

structure DelayReply where
  messages : List String
  action : Option ShutdownEvent

/-- `cmdDelay`, given the manager's configuration when dynamic server management is enabled. -/
def cmdDelay (dynamicServer : Option DynamicServerConfig) (serverName timeArg : String) :
    DelayReply :=
  match dynamicServer with
  | none => ⟨["Dynamic server management is not enabled"], none⟩
  | some cfg =>
      if !cfg.autoStartServers.contains serverName then
        ⟨["Server '" ++ serverName ++ "' is not a managed dynamic server"], none⟩
      else if timeArg = "off" then
        ⟨["Cleared protection period for server '" ++ serverName ++ "'"],
          some .clearProtectionPeriod⟩
      else
        match parseTimeString timeArg.toList with
        | some seconds =>
            if seconds < 0 then invalid
            else
              ⟨["Set protection period for server '" ++ serverName ++ "' to " ++
                  formatDuration seconds],
                some (.setShutdownDelay seconds)⟩
        | none => invalid
where
  invalid : DelayReply :=
    ⟨["Invalid time format: " ++ timeArg, "Use format like: 30s, 5m, 2h or plain seconds"],
      none⟩

def readmeConfig : Option DynamicServerConfig := loadConfig (.parsed (some readmeDynamicServer))

example : (cmdDelay readmeConfig "creative" "5m").messages =
    ["Set protection period for server 'creative' to 5 minute(s)"] := by decide

/-! ## The accepted time formats -/

/-- The formats the help text documents, "10s, 5m, 2h or plain seconds": decimal digits, then at
most one unit letter. -/
def documentedTimeFormat (s : List Char) : Bool :=
  let digits :=
    if s.getLast? = some 's' ∨ s.getLast? = some 'm' ∨ s.getLast? = some 'h' then s.dropLast
    else s
  !digits.isEmpty && digits.all Char.isDigit

/-- `Sscanf` stops at the first character that is not a digit and reports nothing about the
rest, so an unknown unit, a fraction and stray characters all set a protection period: "2d" two
seconds, "1.5h" one hour, "10x" ten seconds. -/
theorem cmdDelay_accepts_undocumented_formats :
    (documentedTimeFormat "2d".toList = false ∧
      (cmdDelay readmeConfig "creative" "2d").action = some (.setShutdownDelay 2)) ∧
    (documentedTimeFormat "1.5h".toList = false ∧
      (cmdDelay readmeConfig "creative" "1.5h").action = some (.setShutdownDelay 3600)) ∧
    (documentedTimeFormat "10x".toList = false ∧
      (cmdDelay readmeConfig "creative" "10x").action = some (.setShutdownDelay 10)) :=
  ⟨⟨rfl, rfl⟩, ⟨rfl, rfl⟩, ⟨rfl, rfl⟩⟩

theorem parseTimeString_documented {digits unit : List Char} {multiplier : Int}
    (unitOk : (unit, multiplier) ∈ [([], 1), (['s'], 1), (['m'], 60), (['h'], 3600)])
    (nonempty : digits ≠ []) (all : ∀ d ∈ digits, d.isDigit)
    (fits : digitsValue digits * multiplier < 2 ^ 63) :
    parseTimeString (digits ++ unit) = some (digitsValue digits * multiplier) := by
  have positive : 1 ≤ multiplier := by simp at unitOk; omega
  have value_le : (digitsValue digits : Int) ≤ digitsValue digits * multiplier :=
    le_mul_of_one_le_right (Int.ofNat_nonneg _) positive
  have scanned : scanInt digits = some (digitsValue digits : Int) := by
    simpa using scanInt_digits nonempty all (by simp : ∀ c ∈ ([] : List Char).head?,
      c.isDigit = false) (by omega)
  have exact : toInt64 (digitsValue digits * multiplier) = digitsValue digits * multiplier :=
    toInt64_of_range (by omega) fits
  simp only [List.mem_cons, Prod.mk.injEq, List.mem_singleton, List.not_mem_nil, or_false]
    at unitOk
  rcases unitOk with ⟨rfl, rfl⟩ | ⟨rfl, rfl⟩ | ⟨rfl, rfl⟩ | ⟨rfl, rfl⟩
  · have lastEq := List.getLast?_eq_getLast digits nonempty
    have digit := all _ (List.getLast_mem nonempty)
    simp only [List.append_nil, parseTimeString, lastEq]
    split <;> simp_all [Char.isDigit]
  all_goals
    simp only [parseTimeString, List.getLast?_concat, List.dropLast_concat, scanned,
      Option.map_some', exact]

/-- **Every documented time format sets the protection period it names**, while the product
fits in an `int`: digits, then `s`, `m`, `h` or nothing, make `cmdDelay` call `SetShutdownDelay`
with the digits' value times the unit. -/
theorem cmdDelay_sets_documented_delay {cfg : DynamicServerConfig} {serverName : String}
    (managed : serverName ∈ cfg.autoStartServers) {digits unit : List Char} {multiplier : Int}
    (unitOk : (unit, multiplier) ∈ [([], 1), (['s'], 1), (['m'], 60), (['h'], 3600)])
    (nonempty : digits ≠ []) (all : ∀ d ∈ digits, d.isDigit)
    (fits : digitsValue digits * multiplier < 2 ^ 63) :
    (cmdDelay (some cfg) serverName ⟨digits ++ unit⟩).action =
      some (.setShutdownDelay (digitsValue digits * multiplier)) := by
  have positive : 1 ≤ multiplier := by simp at unitOk; omega
  have notOff : (⟨digits ++ unit⟩ : String) ≠ "off" := by
    obtain ⟨d, rest, rfl⟩ := List.exists_cons_of_ne_nil nonempty
    have digit := all d (List.mem_cons_self d rest)
    intro off
    have : d = 'o' := by simpa using congrArg (fun s : String => s.data.head?) off
    simp [this, Char.isDigit] at digit
  have nonnegative : ¬ (digitsValue digits : Int) * multiplier < 0 :=
    not_lt.mpr (Int.mul_nonneg (Int.ofNat_nonneg _) (by omega))
  simp only [cmdDelay, List.contains, List.elem_eq_true_of_mem managed, Bool.not_true,
    Bool.false_eq_true, if_false, notOff, String.toList,
    parseTimeString_documented unitOk nonempty all fits, nonnegative]

theorem cmdDelay_sets_documented_delay_thirty_seconds :
    let cfg : DynamicServerConfig :=
      ⟨[("creative", "mcsm-instance-uuid")], ["creative"], 60, 0, 0, 300⟩
    "creative" ∈ cfg.autoStartServers ∧
      (['s'], (1 : Int)) ∈ [([], 1), (['s'], 1), (['m'], 60), (['h'], 3600)] ∧
      ['3', '0'] ≠ [] ∧ (∀ d ∈ ['3', '0'], d.isDigit) ∧
      (digitsValue ['3', '0'] : Int) * 1 < 2 ^ 63 ∧
      (cmdDelay (some cfg) "creative" ⟨['3', '0'] ++ ['s']⟩).action =
        some (.setShutdownDelay ((digitsValue ['3', '0'] : Int) * 1)) := by
  intro cfg
  have managed : "creative" ∈ cfg.autoStartServers := List.mem_singleton_self _
  have unitOk : (['s'], (1 : Int)) ∈ [([], 1), (['s'], 1), (['m'], 60), (['h'], 3600)] := by
    decide
  exact ⟨managed, unitOk, by decide, by decide, by decide,
    cmdDelay_sets_documented_delay managed unitOk (by decide) (by decide) (by decide)⟩

/-- After `SetShutdownDelay(d)`, while `now + d * 1000` stays in the `int64` range, the server
is in its protection period for as long as its clock reads less than `d` seconds past the call,
through every run of the idle machine without an admin command. -/
theorem setShutdownDelay_protects (settings : IdleSettings) (s : ShutdownState) {d : Int}
    (nonneg : 0 ≤ d) (fits : s.now + d * 1000 < 2 ^ 63) {events : List ShutdownEvent}
    (noAdmin : ∀ e ∈ events, e.isAdmin = false) {t : ShutdownState}
    (ran : (s.setShutdownDelay d).run settings events = some t)
    (before : t.now < s.now + d * 1000) : t.inProtection = true := by
  have kept := ShutdownState.run_keeps_config settings noAdmin ran
  have delay : toInt64 (d * 1000) = d * 1000 := toInt64_of_range (by omega) (by omega)
  have ends : toInt64 (s.now + d * 1000) = s.now + d * 1000 := toInt64_of_range (by omega) fits
  simp only [ShutdownState.setShutdownDelay, ShutdownState.cancelShutdown_keeps] at kept
  simp [ShutdownState.inProtection, kept.1, ShutdownConfig.isInProtectionPeriod, delay, ends,
    before]

theorem setShutdownDelay_protects_half_minute :
    ∃ t, ((ShutdownState.start 1700000000000).setShutdownDelay 60).run ⟨300, true⟩
        [.advance 30000, .readConfig, .idleCheck (some 0)] = some t ∧
      0 ≤ (60 : Int) ∧ ((ShutdownState.start 1700000000000).now : Int) + 60 * 1000 < 2 ^ 63 ∧
      (∀ e ∈ ([.advance 30000, .readConfig, .idleCheck (some 0)] : List ShutdownEvent),
        e.isAdmin = false) ∧
      (t.now : Int) < (ShutdownState.start 1700000000000).now + 60 * 1000 ∧
      t.inProtection = true := by
  obtain ⟨t, ran⟩ : ∃ t, ((ShutdownState.start 1700000000000).setShutdownDelay 60).run
      ⟨300, true⟩ [.advance 30000, .readConfig, .idleCheck (some 0)] = some t := ⟨_, rfl⟩
  have now : t.now = 1700000030000 := by
    have clock := congrArg (Option.map ShutdownState.now) ran
    exact Option.some.inj (clock.symm.trans rfl)
  have before : (t.now : Int) < (ShutdownState.start 1700000000000).now + 60 * 1000 := by
    rw [now]
    decide
  exact ⟨t, ran, by decide, by decide, by decide, before,
    setShutdownDelay_protects ⟨300, true⟩ _ (by decide) (by decide) (by decide) ran before⟩

/-- Both products of the delay wrap in 64 bits.  "5124095576030432h" names 5124095576030432
hours, but `num * multiplier` wraps to 3584 seconds.  A delay of 9223372036854775 seconds parses
exactly, but its end `now + delay * 1000` leaves the `int64` range and wraps below zero, so on a
clock at 1700000000000 ms the protection period is over the moment it is set. -/
theorem cmdDelay_wraps_protection :
    (5124095576030432 * 3600 : Int) ≠ 3584 ∧
      (cmdDelay readmeConfig "creative" "5124095576030432h").action =
        some (.setShutdownDelay 3584) ∧
      (cmdDelay readmeConfig "creative" "9223372036854775").action =
        some (.setShutdownDelay 9223372036854775) ∧
      ((ShutdownState.start 1700000000000).setShutdownDelay 9223372036854775).inProtection =
        false :=
  ⟨by decide, rfl, rfl, rfl⟩

end RmsGate.Command
