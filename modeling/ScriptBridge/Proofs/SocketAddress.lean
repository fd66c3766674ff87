import ScriptBridge.Proofs.Text.Digits

/-! # Addresses that are written are read back

Octets and groups are read up to where their digits stop. A group is no octet: what stands behind it
is never a point. The longest run of zero groups is left out of an address, and the groups that
stand around a double colon tell how many are missing.
-/

namespace ScriptBridge.SocketAddress

/-- A character that an octet or a group may go on with. -/
def isInner (c : Char) : Bool :=
  (Text.digitOf? 16 c).isSome || c == '.'

/-- A character that a decimal number goes on with. -/
def isDecimal (c : Char) : Bool :=
  (Text.digitOf? 10 c).isSome

theorem isInner_of_isDecimal {c : Char} (decimal : isDecimal c = true) : isInner c = true := by
  simp only [isDecimal, isInner, Text.digitOf?, Option.isSome_ite, Bool.or_eq_true] at decimal ⊢
  exact Or.inl (by grind)

theorem decimal_of_stops {rest : List Char} (stops : Stops isInner rest) :
    Stops isDecimal rest := by
  intro c first
  cases decimal : isDecimal c with
  | false => rfl
  | true =>
      have inner := isInner_of_isDecimal decimal
      rw [stops c first] at inner
      contradiction

theorem group_of_stops {rest : List Char} (stops : Stops isInner rest) :
    Stops (fun c => (Text.digitOf? 16 c).isSome) rest := by
  intro c first
  have outside := stops c first
  simp only [isInner, Bool.or_eq_false_iff] at outside
  exact outside.1

theorem readOctet_toDigits {n : Nat} (small : n < 256) {rest : List Char}
    (stops : Stops isDecimal rest) :
    readOctet (Nat.toDigits 10 n ++ rest) = some (UInt8.ofNat n, rest) := by
  have narrow : (Nat.toDigits 10 n).length ≤ 3 :=
    (Nat.length_toDigits_le_iff (by decide) (by decide)).mpr (by omega)
  rw [readOctet, readNumber_toDigits (by decide) (by decide) (Nat.le_of_lt_succ small)
    (fun most width => by cases width; exact narrow) false stops]
  rfl

/-- The text of four octets. -/
def dotted (a b c d : Nat) : List Char :=
  Nat.toDigits 10 a ++ '.' :: (Nat.toDigits 10 b ++ '.' :: (Nat.toDigits 10 c ++
    '.' :: Nat.toDigits 10 d))

theorem readIpv4_dotted {a b c d : Nat} (smallA : a < 256) (smallB : b < 256) (smallC : c < 256)
    (smallD : d < 256) {rest : List Char}
    (stops : Stops isDecimal rest) :
    readIpv4 (dotted a b c d ++ rest) =
      some (⟨UInt8.ofNat a, UInt8.ofNat b, UInt8.ofNat c, UInt8.ofNat d⟩, rest) := by
  have point : ∀ cs, Stops isDecimal ('.' :: cs) :=
    fun cs => stops_cons (by decide) cs
  simp only [readIpv4, dotted, List.append_assoc, List.cons_append,
    readOctet_toDigits smallA (point _), readOctet_toDigits smallB (point _),
    readOctet_toDigits smallC (point _), readOctet_toDigits smallD stops, readChar, if_true,
    Option.bind_eq_bind, Option.bind_some]

theorem toList_renderIpv4 (ip : Ipv4) :
    (renderIpv4 ip).toList = dotted ip.a.toNat ip.b.toNat ip.c.toNat ip.d.toNat := by
  simp [renderIpv4, dotted]

theorem rest_of_readOctet {cs rest : List Char} {octet : UInt8}
    (read : readOctet cs = some (octet, rest)) : rest = cs.dropWhile isDecimal := by
  obtain ⟨⟨n, behind⟩, number, same⟩ := Option.map_eq_some_iff.mp read
  obtain ⟨rfl, rfl⟩ := Prod.mk.inj same
  simp only [readNumber, spanDigits] at number
  split at number
  · contradiction
  · next digits rest _ spans =>
      split at number
      · contradiction
      · split at number
        · contradiction
        · split at number
          · contradiction
          · exact (Prod.mk.inj (Option.some.inj number)).2.symm.trans (Prod.mk.inj spans).2.symm

/-- No octets stand where a group does: there is no point behind its digits. -/
theorem readIpv4_group {digits rest : List Char}
    (all : ∀ c ∈ digits, (Text.digitOf? 16 c).isSome = true) (stops : Stops isInner rest) :
    readIpv4 (digits ++ rest) = none := by
  have point : (Text.digitOf? 16 '.').isSome = false := by decide
  have behind : ∀ c ∈ ((digits ++ rest).dropWhile isDecimal).head?, c ≠ '.' := by
    induction digits with
    | nil =>
        have whole := (@span_of_stops isDecimal [] rest (by simp) (decimal_of_stops stops)).2
        rw [List.nil_append] at whole ⊢
        rw [whole]
        rintro c first rfl
        exact absurd (stops '.' first) (by decide)
    | cons digit digits ih =>
        rw [List.cons_append, List.dropWhile_cons]
        split
        · exact ih fun c member => all c (List.mem_cons_of_mem _ member)
        · rintro c first rfl
          obtain rfl : digit = '.' := by simpa using first
          rw [all '.' List.mem_cons_self] at point
          contradiction
  cases octet : readOctet (digits ++ rest) with
  | none => simp [readIpv4, octet]
  | some read =>
      obtain ⟨a, cs⟩ := read
      have missing : readChar '.' cs = none := by
        rw [rest_of_readOctet octet]
        cases cs : (digits ++ rest).dropWhile isDecimal with
        | nil => rfl
        | cons c cs' => exact if_neg (behind c (by rw [cs]; rfl))
      simp [readIpv4, octet, missing]

/-- The text of some groups behind a first one. -/
def tailText (groups : List UInt16) : List Char :=
  groups.flatMap fun group => ':' :: Nat.toDigits 16 group.toNat

theorem toList_renderGroups_cons (group : UInt16) (groups : List UInt16) :
    (renderGroups (group :: groups)).toList =
      Nat.toDigits 16 group.toNat ++ tailText groups := by
  induction groups generalizing group with
  | nil => simp [renderGroups, tailText]
  | cons next groups ih =>
      have rest := ih next
      simp only [renderGroups, List.map_cons, String.toList_intercalate] at rest ⊢
      rw [List.intercalate_cons_cons, rest]
      simp [tailText]

theorem stops_tailText (groups : List UInt16) {rest : List Char} (stops : Stops isInner rest) :
    Stops isInner (tailText groups ++ rest) := by
  cases groups with
  | nil => exact stops
  | cons group groups => exact stops_cons (by decide) _

theorem length_toDigits_group (group : UInt16) : (Nat.toDigits 16 group.toNat).length ≤ 4 :=
  (Nat.length_toDigits_le_iff (by decide) (by decide)).mpr group.toNat_lt

/-- The groups of some, where a first one stands in front. -/
def Groups.cons (group : UInt16) (groups : Groups) : Groups :=
  ⟨group :: groups.groups, groups.octets, groups.rest⟩

theorem readNumber_group (group : UInt16) {rest : List Char} (stops : Stops isInner rest) :
    readNumber 16 65535 (some 4) true (Nat.toDigits 16 group.toNat ++ rest) =
      some (group.toNat, rest) :=
  readNumber_toDigits (by decide) (by decide) (Nat.le_of_lt_succ group.toNat_lt)
    (fun most width => by cases width; exact length_toDigits_group group) true
    (group_of_stops stops)

theorem readGroups_group (first : Bool) (group : UInt16) {rest : List Char}
    (stops : Stops isInner rest) (room : Nat) :
    readGroups first (room + 1)
        ((if first then [] else [':']) ++ (Nat.toDigits 16 group.toNat ++ rest)) =
      (readGroups false room rest).cons group := by
  have all : ∀ c ∈ Nat.toDigits 16 group.toNat, (Text.digitOf? 16 c).isSome = true :=
    fun c member => Text.isSome_of_mem_toDigits (by decide) (by decide) member
  have octets : (if 0 < room then readIpv4 (Nat.toDigits 16 group.toNat ++ rest) else none) =
      none := by
    rw [readIpv4_group all stops, ite_self]
  cases first with
  | false =>
      simp only [readGroups, Bool.false_eq_true, if_false, List.cons_append, List.nil_append,
        readChar, if_true, octets, readNumber_group group stops, UInt16.ofNat_toNat]
      rfl
  | true =>
      simp only [readGroups, if_true, List.nil_append, octets, readNumber_group group stops,
        UInt16.ofNat_toNat]
      rfl

theorem readGroups_tailText (groups : List UInt16) {room : Nat} {rest : List Char}
    (stops : Stops isInner rest) (ends : readGroups false room rest = ⟨[], false, rest⟩) :
    readGroups false (groups.length + room) (tailText groups ++ rest) = ⟨groups, false, rest⟩ := by
  induction groups with
  | nil => simpa [tailText] using ends
  | cons group groups ih =>
      have step := readGroups_group false group (stops_tailText groups stops) (groups.length + room)
      rw [ih] at step
      have counted : (group :: groups).length + room = groups.length + room + 1 := by
        rw [List.length_cons]
        omega
      have text : tailText (group :: groups) ++ rest =
          (if false = true then [] else [':']) ++
            (Nat.toDigits 16 group.toNat ++ (tailText groups ++ rest)) := by
        simp [tailText]
      rw [counted, text, step]
      rfl

theorem readNumber_of_stops {rest : List Char} (stops : Stops isInner rest) (limit : Nat)
    (width : Option Nat) (zeros : Bool) : readNumber 16 limit width zeros rest = none := by
  have nothing := (@span_of_stops _ [] rest (by simp) (group_of_stops stops)).1
  rw [List.nil_append] at nothing
  simp only [readNumber, spanDigits, nothing, List.filterMap_nil]

theorem readGroups_of_stops (first : Bool) (room : Nat) {rest : List Char}
    (stops : Stops isInner rest)
    (colon : first = false → ∀ cs, rest = ':' :: cs → Stops isInner cs) :
    readGroups first room rest = ⟨[], false, rest⟩ := by
  cases room with
  | zero => rfl
  | succ room =>
      simp only [readGroups]
      split
      · rfl
      · next behind lead =>
          have outside : Stops isInner behind := by
            cases first with
            | true =>
                obtain rfl : rest = behind := by simpa using lead
                exact stops
            | false =>
                cases rest with
                | nil => contradiction
                | cons c cs =>
                    simp only [Bool.false_eq_true, if_false, readChar] at lead
                    split at lead
                    · next mark =>
                        obtain rfl := Option.some.inj lead
                        exact colon rfl cs (by rw [mark])
                    · contradiction
          have octets : (if 0 < room then readIpv4 behind else none) = none := by
            have nothing := @readIpv4_group [] behind (by simp) outside
            rw [List.nil_append] at nothing
            rw [nothing, ite_self]
          simp only [octets, readNumber_of_stops outside]

theorem readGroups_renderGroups (groups : List UInt16) {room : Nat} {rest : List Char}
    (stops : Stops isInner rest) (colon : ∀ cs, rest = ':' :: cs → Stops isInner cs) :
    readGroups true (groups.length + room) ((renderGroups groups).toList ++ rest) =
      ⟨groups, false, rest⟩ := by
  cases groups with
  | nil => exact readGroups_of_stops true _ stops (by simp)
  | cons group groups =>
      have step := readGroups_group true group (stops_tailText groups stops) (groups.length + room)
      rw [readGroups_tailText groups stops (readGroups_of_stops false room stops fun _ => colon)]
        at step
      have counted : (group :: groups).length + room = groups.length + room + 1 := by
        rw [List.length_cons]
        omega
      rw [toList_renderGroups_cons, counted, List.append_assoc]
      exact step

theorem take_zeroRun (groups : List UInt16) :
    groups.take (zeroRun groups) = List.replicate (zeroRun groups) 0 := by
  induction groups with
  | nil => rfl
  | cons group groups ih =>
      by_cases zero : group = 0
      · have longer : zeroRun (group :: groups) = zeroRun groups + 1 := by simp [zeroRun, zero]
        rw [longer, List.take_succ_cons, List.replicate_succ, ih, zero]
      · have nothing : zeroRun (group :: groups) = 0 := by simp [zeroRun, zero]
        rw [nothing]
        rfl

theorem zeroRun_le (groups : List UInt16) : zeroRun groups ≤ groups.length :=
  (List.takeWhile_sublist _).length_le

/-- Whether a run of zeros stands somewhere in the groups. -/
def IsRun (groups : List UInt16) (run : Nat × Nat) : Prop :=
  run.1 + run.2 ≤ groups.length ∧
    (groups.drop run.1).take run.2 = List.replicate run.2 0

theorem isRun_longestRun (groups : List UInt16) : IsRun groups (longestRun groups) := by
  have step : ∀ (starts : List Nat) (best : Nat × Nat), (∀ i ∈ starts, i < groups.length) →
      IsRun groups best → IsRun groups (starts.foldl (fun best i =>
        let run := zeroRun (groups.drop i)
        if best.2 < run then (i, run) else best) best) := by
    intro starts
    induction starts with
    | nil => exact fun best _ run => run
    | cons i starts ih =>
        intro best inside run
        refine ih _ (fun j member => inside j (List.mem_cons_of_mem _ member)) ?_
        dsimp only
        split
        · have start := inside i List.mem_cons_self
          have bound := zeroRun_le (groups.drop i)
          rw [List.length_drop] at bound
          exact ⟨by dsimp only; omega, take_zeroRun _⟩
        · exact run
  exact step _ _ (fun i member => List.mem_range.mp member) ⟨Nat.zero_le _, rfl⟩

/-- The groups around a run of zeros, with the zeros put in, are all groups. -/
theorem around_run {groups : List UInt16} {start run : Nat} (isRun : IsRun groups (start, run)) :
    groups.take start ++ List.replicate run 0 ++ groups.drop (start + run) = groups := by
  rw [← isRun.2, ← List.drop_drop, List.append_assoc, List.take_append_drop,
    List.take_append_drop]

/-- A character that an address of version 6 goes on with. -/
def isOuter (c : Char) : Bool :=
  isInner c || c == ':'

section Version6

variable {rest : List Char} (stops : Stops isOuter rest)

include stops

theorem inner_of_outer : Stops isInner rest := by
  intro c first
  have outside := stops c first
  simp only [isOuter, Bool.or_eq_false_iff] at outside
  exact outside.1

theorem inner_of_colon (cs : List Char) (colon : rest = ':' :: cs) : Stops isInner cs :=
  absurd (stops ':' (by rw [colon]; rfl)) (by decide)

theorem readIpv6_whole {groups : List UInt16} (size : groups.length = 8) :
    readIpv6 ((renderGroups groups).toList ++ rest) = some (⟨groups, size⟩, rest) := by
  have read := @readGroups_renderGroups groups 0 rest (inner_of_outer stops) (inner_of_colon stops)
  rw [Nat.add_zero, size] at read
  simp [readIpv6, read, size, ofGroups?]

theorem readIpv6_around {front back : List UInt16} (fewer : front.length + back.length < 8) :
    readIpv6 ((renderGroups front).toList ++ ':' :: ':' :: ((renderGroups back).toList ++ rest)) =
      (ofGroups? (front ++ List.replicate (8 - front.length - back.length) 0 ++ back)).map
        fun ip => (ip, rest) := by
  have inner : ∀ cs, Stops isInner (':' :: cs) := fun cs => stops_cons (by decide) cs
  have readFront := @readGroups_renderGroups front (8 - front.length)
    (':' :: ':' :: ((renderGroups back).toList ++ rest)) (inner _)
    (fun cs colon => by obtain ⟨_, rfl⟩ := List.cons.inj colon; exact inner _)
  have readBack := @readGroups_renderGroups back (7 - front.length - back.length) rest
    (inner_of_outer stops) (inner_of_colon stops)
  rw [Nat.add_sub_of_le (by omega)] at readFront readBack
  have short : front.length ≠ 8 := by omega
  simp only [readIpv6, readFront, if_neg short, Bool.false_eq_true, if_false, readChar, if_true,
    readBack, Option.bind_eq_bind, Option.bind_some]
  cases ofGroups? (front ++ List.replicate (8 - front.length - back.length) 0 ++ back) <;> rfl

theorem readGroups_dotted {a b c d : Nat} (smallA : a < 256) (smallB : b < 256) (smallC : c < 256)
    (smallD : d < 256) (room : Nat) :
    readGroups false (room + 2) (':' :: (dotted a b c d ++ rest)) =
      ⟨[groupOf (UInt8.ofNat a) (UInt8.ofNat b), groupOf (UInt8.ofNat c) (UInt8.ofNat d)], true,
        rest⟩ := by
  have octets := readIpv4_dotted smallA smallB smallC smallD
    (decimal_of_stops (inner_of_outer stops))
  simp [readGroups, readChar, octets]

theorem readIpv6_mapped {a b c d : Nat} (smallA : a < 256) (smallB : b < 256) (smallC : c < 256)
    (smallD : d < 256) :
    readIpv6 ("::ffff:".toList ++ (dotted a b c d ++ rest)) =
      some (⟨[0, 0, 0, 0, 0, 0xFFFF, groupOf (UInt8.ofNat a) (UInt8.ofNat b),
        groupOf (UInt8.ofNat c) (UInt8.ofNat d)], rfl⟩, rest) := by
  have mark : Nat.toDigits 16 (0xFFFF : UInt16).toNat = ['f', 'f', 'f', 'f'] := by decide
  have inner : ∀ cs, Stops isInner (':' :: cs) := fun cs => stops_cons (by decide) cs
  have front := readGroups_of_stops true 8
    (inner (':' :: 'f' :: 'f' :: 'f' :: 'f' :: ':' :: (dotted a b c d ++ rest))) (by simp)
  have back := readGroups_group true 0xFFFF (inner (dotted a b c d ++ rest)) 6
  rw [readGroups_dotted stops smallA smallB smallC smallD 4, mark] at back
  have text : "::ffff:".toList = [':', ':', 'f', 'f', 'f', 'f', ':'] := rfl
  simp only [if_true, List.nil_append, List.cons_append] at back
  simp only [readIpv6, text, List.cons_append, List.nil_append, front, List.length_nil, readChar,
    if_true, Nat.sub_zero, back, Option.bind_eq_bind, Option.bind_some]
  rfl

omit stops in
theorem groupOf_div_mod (group : UInt16) :
    groupOf (UInt8.ofNat (group.toNat / 256)) (UInt8.ofNat (group.toNat % 256)) = group := by
  have bound := group.toNat_lt
  have high : (UInt8.ofNat (group.toNat / 256)).toNat = group.toNat / 256 :=
    UInt8.toNat_ofNat_of_lt' (show _ < 256 by omega)
  have low : (UInt8.ofNat (group.toNat % 256)).toNat = group.toNat % 256 :=
    UInt8.toNat_ofNat_of_lt' (show _ < 256 by omega)
  rw [groupOf, high, low, Nat.div_add_mod', UInt16.ofNat_toNat]

theorem readIpv6_renderIpv6 (ip : Ipv6) :
    readIpv6 ((renderIpv6 ip).toList ++ rest) = some (ip, rest) := by
  obtain ⟨groups, size⟩ := ip
  simp only [renderIpv6]
  split
  · next g h =>
      have boundG := g.toNat_lt
      have boundH := h.toNat_lt
      have text : ("::ffff:" ++ ".".intercalate
          ([g.toNat / 256, g.toNat % 256, h.toNat / 256, h.toNat % 256].map toString)).toList =
            "::ffff:".toList ++
              dotted (g.toNat / 256) (g.toNat % 256) (h.toNat / 256) (h.toNat % 256) := by
        simp [dotted]
      have read := @readIpv6_mapped rest stops (g.toNat / 256) (g.toNat % 256) (h.toNat / 256)
        (h.toNat % 256) (by omega) (by omega) (by omega) (by omega)
      rw [text, List.append_assoc, read]
      simp only [groupOf_div_mod]
  · next other _ =>
      have run := isRun_longestRun groups
      obtain ⟨start, length, longest⟩ : ∃ start length, longestRun groups = (start, length) :=
        ⟨_, _, rfl⟩
      rw [longest] at run
      have inside : start + length ≤ groups.length := run.1
      simp only [longest]
      split
      · next long =>
          have fewer : (groups.take start).length + (groups.drop (start + length)).length < 8 := by
            rw [List.length_take, List.length_drop]
            omega
          have missing : 8 - (groups.take start).length - (groups.drop (start + length)).length =
              length := by
            rw [List.length_take, List.length_drop]
            omega
          have read := readIpv6_around stops fewer
          rw [missing, around_run run, ofGroups?, dif_pos size] at read
          have text : (renderGroups (groups.take start) ++ "::" ++
              renderGroups (groups.drop (start + length))).toList ++ rest =
            (renderGroups (groups.take start)).toList ++
              ':' :: ':' :: ((renderGroups (groups.drop (start + length))).toList ++ rest) := by
            simp
          rw [text, read]
          rfl
      · exact readIpv6_whole stops size

end Version6

theorem readPort_toDigits (port : UInt16) :
    readPort (':' :: Nat.toDigits 10 port.toNat) = some (port, []) := by
  have number := @readNumber_toDigits 10 65535 port.toNat (by decide) (by decide)
    (Nat.le_of_lt_succ port.toNat_lt) none (by simp) true [] (stops_nil _)
  rw [List.append_nil] at number
  simp [readPort, readChar, number]

/-- What stands behind an address of version 6: its scope, and then the bracket and its port. -/
def scopeText (scope : UInt32) (port : UInt16) : List Char :=
  (if scope = 0 then [] else '%' :: Nat.toDigits 10 scope.toNat) ++
    ']' :: ':' :: Nat.toDigits 10 port.toNat

theorem readScope_scopeText (scope : UInt32) (port : UInt16) :
    readScope (scopeText scope port) = some (scope, ']' :: ':' :: Nat.toDigits 10 port.toNat) := by
  by_cases zero : scope = 0
  · subst zero
    rfl
  · have number := @readNumber_toDigits 10 4294967295 scope.toNat (by decide) (by decide)
      (Nat.le_of_lt_succ scope.toNat_lt) none (by simp) true
      (']' :: ':' :: Nat.toDigits 10 port.toNat) (stops_cons (by decide) _)
    simp [scopeText, if_neg zero, readScope, number]

theorem stops_scopeText (scope : UInt32) (port : UInt16) : Stops isOuter (scopeText scope port) := by
  unfold scopeText
  split
  · exact stops_cons (by decide) _
  · exact stops_cons (by decide) _

theorem toList_render_v4 (ip : Ipv4) (port : UInt16) :
    (render (.v4 ip port)).toList =
      dotted ip.a.toNat ip.b.toNat ip.c.toNat ip.d.toNat ++ ':' :: Nat.toDigits 10 port.toNat := by
  rw [← toList_renderIpv4]
  simp [render]

theorem toList_render_v6 (ip : Ipv6) (scope : UInt32) (port : UInt16) :
    (render (.v6 ip scope port)).toList =
      '[' :: ((renderIpv6 ip).toList ++ scopeText scope port) := by
  by_cases zero : scope = 0
  · simp [render, scopeText, zero]
  · simp [render, scopeText, zero]

theorem parseV4?_render (ip : Ipv4) (port : UInt16) :
    parseV4? (render (.v4 ip port)).toList = some (.v4 ip port) := by
  have octets := readIpv4_dotted ip.a.toNat_lt ip.b.toNat_lt ip.c.toNat_lt ip.d.toNat_lt
    (@stops_cons isDecimal ':' (by decide) (Nat.toDigits 10 port.toNat))
  simp only [UInt8.ofNat_toNat] at octets
  simp [toList_render_v4, parseV4?, octets, readPort_toDigits]

theorem parseV6?_render (ip : Ipv6) (scope : UInt32) (port : UInt16) :
    parseV6? (render (.v6 ip scope port)).toList = some (.v6 ip scope port) := by
  have groups := readIpv6_renderIpv6 (stops_scopeText scope port) ip
  simp [toList_render_v6, parseV6?, readChar, groups, readScope_scopeText, readPort_toDigits]

/-- An address that is written is read back. -/
theorem parse?_render (address : SocketAddress) : parse? address.render = some address := by
  cases address with
  | v4 ip port => rw [parse?, parseV4?_render]; rfl
  | v6 ip scope port =>
      have bracket : parseV4? (render (.v6 ip scope port)).toList = none := by
        rw [toList_render_v6]
        rfl
      rw [parse?, bracket, parseV6?_render]
      rfl

end ScriptBridge.SocketAddress
