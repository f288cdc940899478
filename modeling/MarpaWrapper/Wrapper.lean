/-
This file holds the objects of `src/src/marpaWrapper.c`: the wrapper, the
symbols, rules and progress items it registers, and the option records its
user fills in. An array of pointers is a block of cells, and a pointer to a
registered symbol or rule is named by its index in the wrapper's array, which is
where the object lies.

The user's opaque data pointers are kept because callbacks receive them. The
logger and the libmarpa configuration are left out: nothing depends on them.
-/

import MarpaWrapper.World

namespace MarpaWrapper

/-! ### Options -/

/-- `marpaWrapperOption_t`, without the logger. Only the presence of the event callback matters:
its answer is ignored. -/
structure MarpaWrapperOption where
  versionip : Option (Int × Int × Int) := none
  eventCallbackp : Bool := false
  warningIsErrorb : Bool := false
  warningIsIgnoredb : Bool := false
  unsortedEventsb : Bool := false

/-- `marpaWrapperSymbolOption_t`. `firstChari` has no value when it was never assigned. -/
structure MarpaWrapperSymbolOption where
  datavp : Nat
  terminalb : Bool
  startb : Bool
  eventSeti : Int
  sizel : Nat
  firstChari : Option Int

/-- `marpaWrapperRuleOption_t`. -/
structure MarpaWrapperRuleOption where
  datavp : Nat := 0
  lhsSymbolp : Option Nat := none
  nRhsSymboli : Nat := 0
  rhsSymbolpp : List (Option Nat) := []
  ranki : Int := 0
  nullRanksHighb : Bool := false
  sequenceb : Bool := false
  separatorSymbolp : Option Nat := none
  properb : Bool := false
  minimumi : Int := 0

/-! ### Objects -/

/-- `struct marpaWrapperSymbol`: `marpaWrapperp` is the address of its owner. -/
structure MarpaWrapperSymbol where
  address : Nat
  marpaSymbolIdi : Int
  marpaWrapperp : Nat
  marpaWrapperSymbolOption : MarpaWrapperSymbolOption
  isLexemeb : Bool
  lengthl : Nat

/-- `struct marpaWrapperRule`. -/
structure MarpaWrapperRule where
  address : Nat
  marpaRuleIdi : Int
  marpaWrapperp : Nat
  marpaWrapperRuleOption : MarpaWrapperRuleOption

/-- `marpaWrapperProgress_t`. -/
structure MarpaWrapperProgress where
  address : Nat
  marpaEarleySetIdi : Int
  marpaEarleySetIdOrigini : Int
  marpaWrapperRulep : Option Nat
  positioni : Int

/-- `struct marpaWrapper`. -/
structure Wrapper where
  address : Nat
  marpaGrammarp : Option Nat := none
  marpaRecognizerp : Option Nat := none
  sizeMarpaWrapperSymboli : Nat := 0
  nMarpaWrapperSymboli : Nat := 0
  marpaWrapperSymbolpp : Option (Block MarpaWrapperSymbol) := none
  sizeMarpaWrapperRulei : Nat := 0
  nMarpaWrapperRulei : Nat := 0
  marpaWrapperRulepp : Option (Block MarpaWrapperRule) := none
  expectedMarpaSymbolIdArrayp : Option (Block Int) := none
  expectedMarpaWrapperSymbolArraypp : Option (Block Nat) := none
  sizeMarpaWrapperProgressi : Nat := 0
  nMarpaWrapperProgressi : Nat := 0
  marpaWrapperProgresspp : Option (Block MarpaWrapperProgress) := none
  marpaWrapperOption : MarpaWrapperOption := {}

end MarpaWrapper
