import CharLcd.Display.Transfer

/-! A connection to an HD44780 display in 4-bit mode over GPIO lines.

Setting a connection up acquires its lines, all of them or none, and puts the controllers into 4-bit
mode. An open connection owns its lines; closing it releases them, after which it refuses every
transfer.
-/

namespace CharLcd

/-- A connection to a display. -/
structure Connection (ω : Type) where
  /-- The lines of the display, until the connection is closed. -/
  lines : Option (Wiring (Line ω))
  controllers : Controllers
  /-- The number configured for the backlight, or the one that stands for no backlight. -/
  backlightNumber : Int64
  timer : Timer
  stage : Stage
deriving DecidableEq, Repr

namespace Connection

/-- Microseconds after the first byte of the reset sequence, which a controller may take for a slow
instruction.
-/
def resetTime : UInt32 :=
  4100

/-- Microseconds after the switch to 4-bit mode. -/
def fourBitTime : UInt32 :=
  150

/-- The first byte of the reset sequence: two requests for 8-bit mode. -/
def resetByte : UInt8 :=
  0x33

/-- The second byte of the reset sequence: a request for 8-bit mode, then one for 4-bit mode.
Whatever mode a controller is in at first, it ends up in 4-bit mode.
-/
def fourBitByte : UInt8 :=
  0x32

/-- Whether the backlight can be switched. -/
def supportsBacklight {ω : Type} (connection : Connection ω) : Bool :=
  connection.lines.any (·.backlight.isSome)

variable {m : Type → Type} {ω : Type} [Monad m] [Journal m] [Clock m] [LineDriver m ω]

/-- Runs a transfer over the lines of an open connection, and warns of a transfer to a controller
that is not there.
-/
def run (connection : Connection ω) (target : Target)
    (steps : Wiring (Line ω) → List (BusStep ω))
    : m (Except GpioError Unit) :=
  match connection.lines with
  | none => return .error .closed
  | some lines => do
      if target = .second ∧ lines.en2.isNone then
        note .noSecondController
      transfer connection.timer (steps lines)

/-- Sends a byte to the addressed controllers. -/
def send (connection : Connection ω) (target : Target) (register : Register) (byte : UInt8)
    : m (Except GpioError Unit) := do
  note (.sendingByte byte target register)
  connection.run target fun lines =>
    lines.byteSteps connection.controllers target register byte

/-- Sends a single nibble to the addressed controllers. A larger number is an invalid argument. -/
def sendNibble (connection : Connection ω) (target : Target) (register : Register)
    (nibble : UInt8)
    : m (Except GpioError Unit) := do
  if 0x0f < nibble then
    return .error .invalidArgument
  note (.sendingNibble nibble target register)
  connection.run target fun lines =>
    lines.nibbleSteps connection.controllers target register nibble

/-- Switches the backlight, if the display has one that can be switched. -/
def setBacklight (connection : Connection ω) (on : Bool) : m (Except GpioError Unit) :=
  match connection.lines with
  | none => return .error .closed
  | some lines =>
      if !isBacklightLine connection.backlightNumber then return .ok ()
      else
        match lines.backlight with
        | none => return .ok ()
        | some line => do
            note (.switchingBacklight on)
            match ← LineDriver.write line on with
            | .ok () => return .ok ()
            | .error error =>
                note (.backlightFailed line.number error)
                return .error error

/-- Waits, also on a closed connection. -/
def pause (connection : Connection ω) (time : UInt32) : m Unit :=
  Clock.wait connection.timer time

/-- Sets the level of the line of one signal, past the protocol. `none` if there is no such line. -/
def writeLine? (connection : Connection ω) (signal : Signal)
    (level : Bool)
    : Option (m (Except GpioError Unit)) := do
  let lines ← connection.lines
  let line ← lines.get? signal
  return LineDriver.write line level

/-- Enters a stage and reports it. -/
def enter (connection : Connection ω) (stage : Stage) : m (Connection ω) := do
  note (.stageEntered stage)
  return { connection with stage }

/-- Closes a connection: releases its lines in the order in which they were acquired. Closing it
again does nothing.
-/
def close (connection : Connection ω) : m (Except GpioError Unit × Connection ω) := do
  match connection.lines with
  | none => return (.ok (), connection)
  | some lines =>
      let result ← Line.releaseAll lines.toList
      let closed ← { connection with lines := none }.enter .closed
      return (result, closed)

/-- Gives up a connection, which closes it. A failure can only be reported. -/
def discard (connection : Connection ω) : m Unit := do
  match ← connection.close with
  | (.ok (), _) => return
  | (.error error, _) => note (.closeFailed error)

/-- Sends the reset sequence. -/
def reset (connection : Connection ω) : m (Except GpioError Unit) := do
  match ← connection.send .all .command resetByte with
  | .error error => return .error error
  | .ok () =>
      connection.pause resetTime
      match ← connection.send .all .command fourBitByte with
      | .error error => return .error error
      | .ok () =>
          connection.pause fourBitTime
          return .ok ()

/-- Puts the controllers of a connection that has its lines into 4-bit mode. If a write fails, the
lines are released, the last acquired first, and the failed write is the result.
-/
def bringUp (connection : Connection ω) (lines : Wiring (Line ω)) (config : PinConfig)
    : m (Except ConnectionError (Connection ω)) := do
  let connection ← connection.enter .protocolReset
  match ← connection.reset with
  | .error error =>
      let _ ← Line.releaseAll lines.toList.reverse
      return .error (.gpio error)
  | .ok () =>
      let connection ← connection.enter .ready
      note (.connectionReady config.en config.rs [config.d7, config.d6, config.d5, config.d4])
      return .ok connection

/-- Checks the line numbers, acquires the lines and puts the controllers into 4-bit mode. -/
def setUp (config : PinConfig) (options : DisplayOptions) (timer : Timer)
    : m (Except ConnectionError (Connection ω)) := do
  note (.stageEntered .unconfigured)
  match config.wiring options with
  | .error error => return .error error
  | .ok numbers =>
      if options.backlight ∧ !config.backlightEnabled then
        note (.backlightOutOfRange config.backlight)
      note (.stageEntered .pinsAllocated)
      match ← numbers.acquire with
      | .error error => return .error error
      | .ok lines =>
          let connection : Connection ω :=
            { lines := some lines
              controllers := options.controllers
              backlightNumber :=
                if options.backlight then config.backlight else PinConfig.noBacklight
              timer
              stage := .pinsExported }
          note (.stageEntered .pinsExported)
          note (.registered connection.supportsBacklight connection.controllers)
          connection.bringUp lines config

/-- Sets up a connection to a display. A failure is reported before it is returned. -/
def init (config : PinConfig) (options : DisplayOptions) (timer : Timer)
    : m (Except ConnectionError (Connection ω)) := do
  match ← setUp config options timer with
  | .ok connection => return .ok connection
  | .error error =>
      note (.connectionFailed error)
      note (.stageEntered .failed)
      return .error error

/-- Sets up a connection over the lines that a source names. -/
def ofSource (source : ConfigSource) (options : DisplayOptions) (timer : Timer)
    : m (Except ConnectionError (Connection ω)) := do
  let config ← (PinConfig.load source options).emit
  init config options timer

end Connection

end CharLcd
