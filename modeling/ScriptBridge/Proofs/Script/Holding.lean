import Mathlib.Algebra.GroupWithZero.Nat
import ScriptBridge.Proofs.Script.Deferral

/-! # Emissions that are held back

An outlet counts beside the emissions that it holds, and the counts decide what it holds next. Here
is the same told without counts: what was offered, and which of it was admitted, going by the sums of
what was admitted before. Over any history the counts are these sums, every emission that was
admitted is handed over once and in order, and nothing is left behind that would shorten what is
written later.
-/

namespace ScriptBridge

/-- What an emission counts against the allowance of texts. -/
def Emission.textSize : Emission → Nat
  | .body data | .stdout data => data.length
  | .header _ => 0

/-- What an emission counts against the allowance of header lines; a line is ended by two bytes. -/
def Emission.lineSize : Emission → Nat
  | .header line => (utf8 line).length + 2
  | .body _ | .stdout _ => 0

def textTotal (emissions : List Emission) : Nat :=
  (emissions.map Emission.textSize).sum

def lineTotal (emissions : List Emission) : Nat :=
  (emissions.map Emission.lineSize).sum

theorem textTotal_concat (emissions : List Emission) (emission : Emission) :
    textTotal (emissions ++ [emission]) = textTotal emissions + emission.textSize := by
  simp [textTotal]

theorem lineTotal_concat (emissions : List Emission) (emission : Emission) :
    lineTotal (emissions ++ [emission]) = lineTotal emissions + emission.lineSize := by
  simp [lineTotal]

namespace Script.Outlet

/-- Whether emissions can be held together under a limit. -/
def Fits (limit : UInt64) (emissions : List Emission) : Prop :=
  limit = 0 ∨ textTotal emissions ≤ limit.toNat ∧ lineTotal emissions ≤ limit.toNat

instance (limit : UInt64) (emissions : List Emission) : Decidable (Fits limit emissions) :=
  inferInstanceAs (Decidable (_ ∨ _))

/-- Emissions that were offered one after the other, parted into those that were admitted and those
    that were refused. -/
structure Sifted where
  admitted : List Emission
  refused : List Emission
  deriving DecidableEq

/-- One more emission, admitted if it fits together with those that were. -/
def Sifted.add (limit : UInt64) (sifted : Sifted) (emission : Emission) : Sifted :=
  if Fits limit (sifted.admitted ++ [emission]) then
    { sifted with admitted := sifted.admitted ++ [emission] }
  else { sifted with refused := sifted.refused ++ [emission] }

def sift (limit : UInt64) (offered : List Emission) : Sifted :=
  offered.foldl (Sifted.add limit) ⟨[], []⟩

theorem sift_concat (limit : UInt64) (offered : List Emission) (emission : Emission) :
    sift limit (offered ++ [emission]) = (sift limit offered).add limit emission := by
  rw [sift, List.foldl_append]
  rfl

theorem sift_zero (offered : List Emission) : sift 0 offered = ⟨offered, []⟩ := by
  induction offered using List.reverseRecOn with
  | nil => rfl
  | append_singleton offered emission ih =>
      have fits : Fits 0 (offered ++ [emission]) := Or.inl rfl
      simp only [sift_concat, ih, Sifted.add, fits, if_true]

theorem total_sift (limit : UInt64) (offered : List Emission) :
    textTotal (sift limit offered).admitted + textTotal (sift limit offered).refused =
        textTotal offered ∧
      lineTotal (sift limit offered).admitted + lineTotal (sift limit offered).refused =
        lineTotal offered := by
  induction offered using List.reverseRecOn with
  | nil => exact ⟨rfl, rfl⟩
  | append_singleton offered emission ih =>
      obtain ⟨texts, lines⟩ := ih
      rw [sift_concat, Sifted.add]
      split
      · simp only [textTotal_concat, lineTotal_concat]
        omega
      · simp only [textTotal_concat, lineTotal_concat]
        omega

/-- The outlet with an emission that it admits. -/
def hold (outlet : Outlet) (emission : Emission) : Outlet :=
  { outlet with pending :=
    { outlet.pending with
      held := emission :: outlet.pending.held
      output := outlet.pending.output + emission.textSize
      headers := outlet.pending.headers + emission.lineSize } }

/-- An outlet whose counts are the sums of what it holds and of what it refused. -/
structure Balanced (limit : UInt64) (sifted : Sifted) (outlet : Outlet) : Prop where
  held : outlet.emissions = sifted.admitted
  output : outlet.pending.output = textTotal outlet.emissions
  headers : outlet.pending.headers = lineTotal outlet.emissions
  dropped : outlet.pending.dropped = textTotal sifted.refused + lineTotal sifted.refused
  fits : Fits limit outlet.emissions
  limited : outlet.limit = limit

variable {limit : UInt64} {sifted : Sifted} {outlet : Outlet} {emissions : List Emission}
  {emission : Emission}

theorem fits_concat_text (fits : Fits limit emissions) (text : emission.lineSize = 0) :
    Fits limit (emissions ++ [emission]) ↔
      limit = 0 ∨ textTotal emissions + emission.textSize ≤ limit.toNat := by
  rw [Fits, textTotal_concat, lineTotal_concat, text]
  exact or_congr_right' fun limited => and_iff_left (fits.resolve_left limited).2

theorem fits_concat_line (fits : Fits limit emissions) (line : emission.textSize = 0) :
    Fits limit (emissions ++ [emission]) ↔
      limit = 0 ∨ lineTotal emissions + emission.lineSize ≤ limit.toNat := by
  rw [Fits, textTotal_concat, lineTotal_concat, line]
  exact or_congr_right' fun limited => and_iff_right (fits.resolve_left limited).1

theorem Balanced.pushOutput_eq (balanced : Balanced limit sifted outlet)
    (text : emission.lineSize = 0) :
    outlet.pushOutput emission emission.textSize =
      if Fits limit (outlet.emissions ++ [emission]) then outlet.hold emission
      else outlet.drop emission.textSize := by
  have same : outlet.allows (outlet.pending.output + emission.textSize) = true ↔
      Fits limit (outlet.emissions ++ [emission]) := by
    rw [fits_concat_text balanced.fits text, allows_eq_true_iff, balanced.output, balanced.limited]
  simp only [pushOutput, same, hold, text, Nat.add_zero]

/-- Where the counts are the sums, they decide as the sums would. -/
theorem Balanced.accept_eq (balanced : Balanced limit sifted outlet) (emission : Emission) :
    outlet.accept emission =
      if Fits limit (outlet.emissions ++ [emission]) then outlet.hold emission
      else outlet.drop (emission.textSize + emission.lineSize) := by
  cases emission with
  | body data =>
      have text : (Emission.body data).lineSize = 0 := rfl
      exact balanced.pushOutput_eq text
  | stdout data =>
      have text : (Emission.stdout data).lineSize = 0 := rfl
      exact balanced.pushOutput_eq text
  | header line =>
      have same : outlet.allows (outlet.pending.headers + headerSize line) = true ↔
          Fits limit (outlet.emissions ++ [.header line]) := by
        rw [fits_concat_line balanced.fits rfl, allows_eq_true_iff, balanced.headers,
          balanced.limited]
        rfl
      simp only [accept, header, same]
      rw [Emission.textSize, Nat.zero_add]
      rfl

theorem emissions_hold (outlet : Outlet) (emission : Emission) :
    (outlet.hold emission).emissions = outlet.emissions ++ [emission] :=
  List.reverse_cons

theorem Balanced.accept (balanced : Balanced limit sifted outlet) (emission : Emission) :
    Balanced limit (sifted.add limit emission) (outlet.accept emission) := by
  rw [balanced.accept_eq, Sifted.add, ← balanced.held]
  split
  · next fits =>
      refine ⟨emissions_hold outlet emission, ?_, ?_, balanced.dropped, ?_, balanced.limited⟩
      · rw [emissions_hold, textTotal_concat, ← balanced.output]
        rfl
      · rw [emissions_hold, lineTotal_concat, ← balanced.headers]
        rfl
      · rw [emissions_hold]
        exact fits
  · refine ⟨rfl, balanced.output, balanced.headers, ?_, balanced.fits, balanced.limited⟩
    simp only [drop, balanced.dropped, textTotal_concat, lineTotal_concat]
    omega

theorem Balanced.congr (balanced : Balanced limit sifted outlet) {other : Outlet}
    (limited : other.limit = outlet.limit) (pending : other.pending = outlet.pending) :
    Balanced limit sifted other := by
  obtain ⟨otherLimit, exposed, routed, otherPending⟩ := other
  obtain rfl : otherLimit = outlet.limit := limited
  obtain rfl : otherPending = outlet.pending := pending
  exact ⟨balanced.held, balanced.output, balanced.headers, balanced.dropped, balanced.fits,
    balanced.limited⟩

theorem balanced_cleared (limited : outlet.limit = limit) :
    Balanced limit ⟨[], []⟩ outlet.cleared :=
  ⟨rfl, rfl, rfl, rfl, .inr ⟨Nat.zero_le _, Nat.zero_le _⟩, limited⟩

/-- What can be done with an outlet. -/
inductive Operation where
  | output (data : Bytes)
  | header (line : String)
  | write (handle : String) (data : Bytes)
  | expose
  | route
  | take
  | endRequest
  deriving Repr, DecidableEq

/-- An outlet and what was taken from it, one list for each time. -/
structure Tapped where
  outlet : Outlet
  taken : List (List Emission)

namespace Tapped

def update (f : Outlet → Outlet) (tapped : Tapped) : Tapped :=
  { tapped with outlet := f tapped.outlet }

/-- Performs an operation; a handle that is refused changes nothing. What ends a request takes as
    well, but what it takes goes nowhere. -/
def perform (tapped : Tapped) : Operation → Tapped
  | .output data => tapped.update (·.output data)
  | .header line => tapped.update (·.header line)
  | .write handle data => tapped.update fun outlet => (outlet.write? handle data).getD outlet
  | .expose => tapped.update ({ · with exposed := true })
  | .route => tapped.update ({ · with routed := true })
  | .take =>
    let (emissions, outlet) := tapped.outlet.take
    ⟨outlet, tapped.taken ++ [emissions]⟩
  | .endRequest => ⟨tapped.outlet.endRequest, tapped.taken ++ [tapped.outlet.take.1]⟩

def performAll (tapped : Tapped) (history : List Operation) : Tapped :=
  history.foldl perform tapped

end Tapped

/-- As what bytes count that are written to a handle, if they count at all. -/
def destination? (exposed routed : Bool) (handle : String) (data : Bytes) : Option Emission :=
  if routed then some (.body data)
  else if handle = stdoutHandle ∧ exposed then some (.stdout data)
  else none

/-- What a history comes to, told without counts and without a limit: where handles lead, what was
    offered up to each time that the outlet was emptied, and what was offered since. -/
structure Ledger where
  exposed : Bool
  routed : Bool
  past : List (List Emission)
  offered : List Emission

namespace Ledger

def empty : Ledger := ⟨false, false, [], []⟩

def offer (ledger : Ledger) (emission : Emission) : Ledger :=
  { ledger with offered := ledger.offered ++ [emission] }

def close (ledger : Ledger) : Ledger :=
  { ledger with past := ledger.past ++ [ledger.offered], offered := [] }

def enter (ledger : Ledger) : Operation → Ledger
  | .output data => ledger.offer (.body data)
  | .header line => ledger.offer (.header line)
  | .write handle data =>
    (destination? ledger.exposed ledger.routed handle data).elim ledger ledger.offer
  | .expose => { ledger with exposed := true }
  | .route => { ledger with routed := true }
  | .take => ledger.close
  | .endRequest => { ledger.close with exposed := false }

def enterAll (ledger : Ledger) (history : List Operation) : Ledger :=
  history.foldl enter ledger

end Ledger

theorem write?_getD (outlet : Outlet) (handle : String) (data : Bytes) :
    (outlet.write? handle data).getD outlet =
      (destination? outlet.exposed outlet.routed handle data).elim outlet outlet.accept := by
  simp only [write?, destination?]
  split
  · rfl
  · split
    · rfl
    · split <;> rfl

/-- What holds of an outlet and of what was taken from it, after the history of a ledger. -/
structure Accounted (limit : UInt64) (ledger : Ledger) (tapped : Tapped) : Prop where
  balanced : Balanced limit (sift limit ledger.offered) tapped.outlet
  exposed : tapped.outlet.exposed = ledger.exposed
  routed : tapped.outlet.routed = ledger.routed
  taken : tapped.taken = ledger.past.map fun offered => (sift limit offered).admitted

variable {ledger : Ledger} {tapped : Tapped}

theorem Accounted.offer (accounted : Accounted limit ledger tapped) (emission : Emission) :
    Accounted limit (ledger.offer emission) (tapped.update (·.accept emission)) := by
  have kept := tapped.outlet.takes_accept emission
  refine ⟨?_, kept.exposed.trans accounted.exposed, kept.routed.trans accounted.routed,
    accounted.taken⟩
  rw [Ledger.offer, sift_concat]
  exact accounted.balanced.accept emission

theorem Accounted.taken_close (accounted : Accounted limit ledger tapped) :
    tapped.taken ++ [tapped.outlet.emissions] =
      ledger.close.past.map fun offered => (sift limit offered).admitted := by
  rw [Ledger.close, List.map_append, ← accounted.taken, accounted.balanced.held]
  rfl

theorem Accounted.perform (accounted : Accounted limit ledger tapped) (operation : Operation) :
    Accounted limit (ledger.enter operation) (tapped.perform operation) := by
  cases operation with
  | output data => exact accounted.offer (.body data)
  | header line => exact accounted.offer (.header line)
  | write handle data =>
      simp only [Tapped.perform, Ledger.enter, write?_getD, Tapped.update, accounted.exposed,
        accounted.routed]
      cases destination? ledger.exposed ledger.routed handle data with
      | none => exact accounted
      | some emission => exact accounted.offer emission
  | expose =>
      exact ⟨accounted.balanced.congr rfl rfl, rfl, accounted.routed, accounted.taken⟩
  | route =>
      exact ⟨accounted.balanced.congr rfl rfl, accounted.exposed, rfl, accounted.taken⟩
  | take =>
      exact ⟨balanced_cleared accounted.balanced.limited, accounted.exposed, accounted.routed,
        accounted.taken_close⟩
  | endRequest =>
      have cleared := balanced_cleared accounted.balanced.limited
      exact ⟨cleared.congr rfl rfl, rfl, accounted.routed, accounted.taken_close⟩

theorem Accounted.performAll (accounted : Accounted limit ledger tapped)
    (history : List Operation) :
    Accounted limit (ledger.enterAll history) (tapped.performAll history) := by
  induction history generalizing ledger tapped with
  | nil => exact accounted
  | cons operation history ih => exact ih (accounted.perform operation)

theorem accounted_new (limit : UInt64) : Accounted limit .empty ⟨new limit, []⟩ :=
  ⟨@balanced_cleared limit (new limit) rfl, rfl, rfl, rfl⟩

/-- After any history, what is held are the emissions that were admitted since the outlet was last
    emptied, in order; the counts are their sums, each within a limit that there is, and the count of
    what was dropped is the sum of those refused since. Without a limit none is refused. The three
    counts together are what was offered, and so are words as long as that is one. Of every time that
    the outlet was emptied, what was taken are the emissions admitted up to then since the time
    before: with what is held, each one that was ever admitted, once and in order. -/
theorem accounts_after_history (limit : UInt64) (history : List Operation) :
    let tapped := (Tapped.mk (new limit) []).performAll history
    let ledger := Ledger.empty.enterAll history
    let outlet := tapped.outlet
    let sifted := sift limit ledger.offered
    outlet.emissions = sifted.admitted ∧
      outlet.pending.output = textTotal outlet.emissions ∧
      outlet.pending.headers = lineTotal outlet.emissions ∧
      outlet.pending.dropped = textTotal sifted.refused + lineTotal sifted.refused ∧
      (limit ≠ 0 →
        outlet.pending.output ≤ limit.toNat ∧ outlet.pending.headers ≤ limit.toNat) ∧
      (limit = 0 → sifted.admitted = ledger.offered ∧ outlet.pending.dropped = 0) ∧
      outlet.pending.output + outlet.pending.headers + outlet.pending.dropped =
        textTotal ledger.offered + lineTotal ledger.offered ∧
      tapped.taken ++ [outlet.emissions] =
        (ledger.past ++ [ledger.offered]).map fun offered => (sift limit offered).admitted := by
  intro tapped ledger outlet sifted
  have accounted : Accounted limit ledger tapped := (accounted_new limit).performAll history
  have balanced : Balanced limit sifted outlet := accounted.balanced
  refine ⟨balanced.held, balanced.output, balanced.headers, balanced.dropped, ?_, ?_, ?_, ?_⟩
  · intro limited
    rw [balanced.output, balanced.headers]
    exact balanced.fits.resolve_left limited
  · intro free
    have all : sifted = ⟨ledger.offered, []⟩ := by
      rw [← sift_zero, ← free]
    rw [balanced.dropped, all]
    exact ⟨rfl, rfl⟩
  · have totals := total_sift limit ledger.offered
    rw [show sift limit ledger.offered = sifted from rfl] at totals
    rw [balanced.output, balanced.headers, balanced.dropped, balanced.held]
    omega
  · exact accounted.taken_close

/-- Texts and lines that do not fit behind the others, a take, a request that is given up, and what is
    written behind it. -/
theorem accounts_after_given_up_request :
    let history : List Operation :=
      [.output (utf8 "123456"), .output (utf8 "78901"), .output (utf8 "7890"), .header "X-A: 1",
        .header "X-Long: 12345", .take, .expose, .write "STDOUT" (utf8 "lost"), .endRequest,
        .write "STDOUT" (utf8 "refused"), .header "X-B: 2", .output (utf8 "again"),
        .output (utf8 "78901!")]
    let tapped := (Tapped.mk (new 10) []).performAll history
    let outlet := tapped.outlet
    (10 : UInt64) ≠ 0 ∧ outlet.pending.output = 5 ∧ outlet.pending.headers = 8 ∧
      outlet.pending.dropped = 6 ∧ outlet.pending.output ≤ 10 ∧ outlet.pending.headers ≤ 10 ∧
      tapped.taken ++ [outlet.emissions] =
        [[.body (utf8 "123456"), .body (utf8 "7890"), .header "X-A: 1"],
          [.stdout (utf8 "lost")], [.header "X-B: 2", .body (utf8 "again")]] := by
  intro history tapped outlet
  have limited : (10 : UInt64) ≠ 0 := by decide
  obtain ⟨-, output, headers, dropped, within, -, -, taken⟩ := accounts_after_history 10 history
  obtain ⟨texts, lines⟩ := within limited
  have past : tapped.taken ++ [outlet.emissions] =
      [[.body (utf8 "123456"), .body (utf8 "7890"), .header "X-A: 1"],
        [.stdout (utf8 "lost")], [.header "X-B: 2", .body (utf8 "again")]] :=
    taken.trans (by decide +kernel)
  exact ⟨limited, by decide +kernel, by decide +kernel, by decide +kernel, texts, lines, past⟩

end Script.Outlet

end ScriptBridge
