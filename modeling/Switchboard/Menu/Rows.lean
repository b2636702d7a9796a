import Switchboard.Menu.Basic

/-!
# Switchboard.Menu.Rows

A menu as rows of the PBX's tables: one header row and a row for each option. Every column is text.
-/

namespace Switchboard

structure MenuRow where
  name : String
  extension : String
  context : String
  greetLong : String
  greetShort : String
  timeout : String
  exitAction : String
  directDial : String
  ringBack : String
  callerIdNamePrefix : String
  enabled : String
  description : String
deriving DecidableEq, Repr

structure OptionRow where
  digits : String
  action : String
  order : String
  description : String
  enabled : String
deriving DecidableEq, Repr

structure MenuRows where
  menu : MenuRow
  options : List OptionRow
deriving DecidableEq, Repr

def flagText (b : Bool) : String := if b then "true" else "false"

def MenuOption.row (o : MenuOption) : OptionRow where
  digits := o.digit
  action := o.destination.text
  order := o.order.repr
  description := o.description
  enabled := flagText o.enabled

/-- The rows of a menu under a name. A menu without an exit action has an empty column for it. -/
def Menu.rows (m : Menu) (name : String) : MenuRows where
  menu := {
    name := name
    extension := m.extension
    context := m.context
    greetLong := m.greetLong
    greetShort := m.greetShort
    timeout := m.timeout.repr
    exitAction := (m.exitAction.map (·.text)).getD ""
    directDial := flagText m.directDial
    ringBack := m.ringBack
    callerIdNamePrefix := m.callerIdNamePrefix
    enabled := flagText m.enabled
    description := m.description }
  options := m.options.map (·.row)

def MenuRow.toJson (r : MenuRow) : Json :=
  .object [
    ("ivr_menu_name", .string r.name),
    ("ivr_menu_extension", .string r.extension),
    ("ivr_menu_context", .string r.context),
    ("ivr_menu_greet_long", .string r.greetLong),
    ("ivr_menu_greet_short", .string r.greetShort),
    ("ivr_menu_timeout", .string r.timeout),
    ("ivr_menu_exit_action", .string r.exitAction),
    ("ivr_menu_direct_dial", .string r.directDial),
    ("ivr_menu_ring_back", .string r.ringBack),
    ("ivr_menu_caller_id_name_prefix", .string r.callerIdNamePrefix),
    ("ivr_menu_enabled", .string r.enabled),
    ("ivr_menu_description", .string r.description)]

def OptionRow.toJson (r : OptionRow) : Json :=
  .object [
    ("ivr_menu_option_digits", .string r.digits),
    ("ivr_menu_option_action", .string r.action),
    ("ivr_menu_option_order", .string r.order),
    ("ivr_menu_option_description", .string r.description),
    ("ivr_menu_option_enabled", .string r.enabled)]

def MenuRows.toJson (r : MenuRows) : Json :=
  .object [("menu", r.menu.toJson), ("options", .array (r.options.map (·.toJson)))]

end Switchboard
