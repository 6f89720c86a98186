/-
  The host and the port under which the key of a server is looked up.

  * `StopsAt c f`: the reader `f` takes a front part of a text, and never looks behind a
    character `c`; such readers are put together with `StopsAt.bind` and `StopsAt.mark`. Those
    of addresses are of this kind, so that an address is read from its own text alone as it is
    from the literal that it stands in (`StopsAt.alone`);
  * `IpAddress.parse?` reads an address without a port; `Destination.IsHost d text` says that
    the text is the name or the address of the host that is dialed.

  `lookup_dialed`: keys are looked up under the port that is dialed, and under the name or the
  address that is dialed; but an address that has brackets around it in the literal is looked up
  with them.
-/
import Mathlib.Data.List.TakeWhile
import Runbook.Network.Ssh
import Runbook.Proofs.Text

namespace Runbook

/-! ## Readers of the front of a text -/

/-- A reader takes a front part of a text, the same whatever stands behind a character. -/
structure StopsAt {α : Type} (c : Char) (f : List Char → Option (α × List Char)) : Prop where
  suffix : ∀ {s a r}, f s = some (a, r) → r <:+ s
  behind : ∀ s r, f (s ++ c :: r) = (f s).map fun x => (x.1, x.2 ++ c :: r)

theorem SocketAddress.mark_suffix {d : Char} {s t : List Char} (marked : mark? d s = some t) :
    t <:+ s := by
  cases s with
  | nil => cases marked
  | cons e s =>
    rw [mark?] at marked
    split at marked
    · obtain rfl := Option.some.inj marked
      exact List.suffix_cons e s
    · cases marked

namespace StopsAt

variable {α β : Type} {c : Char} {f : List Char → Option (α × List Char)}
  {g : α → List Char → Option (β × List Char)}

/-- What is read in front of the character is read from that part alone. -/
theorem alone (stops : StopsAt c f) {s r : List Char} {a : α} (read : f s = some (a, c :: r)) :
    ∃ t, s = t ++ c :: r ∧ f t = some (a, []) := by
  obtain ⟨t, rfl⟩ := stops.suffix read
  refine ⟨t, rfl, ?_⟩
  rw [stops.behind, Option.map_eq_some_iff] at read
  obtain ⟨⟨a', u⟩, read, same⟩ := read
  obtain ⟨rfl, nothing⟩ := Prod.mk.inj same
  obtain rfl : u = [] := List.append_left_eq_self.1 nothing
  exact read

theorem done (a : α) : StopsAt c fun s => some (a, s) where
  suffix := by
    intro s b r read
    obtain ⟨-, rfl⟩ := Prod.mk.inj (Option.some.inj read)
    exact List.suffix_rfl
  behind _ _ := rfl

theorem bind (first : StopsAt c f) (second : ∀ a, StopsAt c (g a)) :
    StopsAt c fun s => (f s).bind fun x => g x.1 x.2 where
  suffix := by
    intro s b r read
    obtain ⟨⟨a, t⟩, readFirst, readSecond⟩ := Option.bind_eq_some_iff.1 read
    exact ((second a).suffix readSecond).trans (first.suffix readFirst)
  behind := by
    intro s r
    rw [first.behind]
    rcases f s with _ | ⟨a, t⟩
    · rfl
    · exact (second a).behind t r

/-- A mark is another character. -/
theorem mark {d : Char} {h : List Char → Option (β × List Char)} (other : d ≠ c)
    (rest : StopsAt c h) : StopsAt c fun s => (SocketAddress.mark? d s).bind h where
  suffix := by
    intro s b r read
    obtain ⟨t, marked, readRest⟩ := Option.bind_eq_some_iff.1 read
    exact (rest.suffix readRest).trans (SocketAddress.mark_suffix marked)
  behind := by
    intro s r
    cases s with
    | nil => simp [SocketAddress.mark?, other]
    | cons e s =>
      by_cases same : d = e
      · simpa [SocketAddress.mark?, same] using rest.behind s r
      · simp [SocketAddress.mark?, same]

end StopsAt

/-! ## Parts of addresses -/

namespace SocketAddress

variable {c : Char}

theorem number_stops (stop : isDigit c = false) (limit : Nat) : StopsAt c (number? limit) where
  suffix := by
    intro s n r read
    unfold number? at read
    dsimp only at read
    split at read
    · cases read
    · obtain ⟨-, rfl⟩ := Prod.mk.inj (Option.some.inj read)
      exact List.dropWhile_suffix _
  behind := by
    intro s r
    unfold number?
    rw [Text.takeWhile_behind stop, Text.dropWhile_behind stop]
    dsimp only
    split <;> rfl

theorem octet_stops (stop : isDigit c = false) : StopsAt c octet? where
  suffix := by
    intro s n r read
    unfold octet? at read
    dsimp only at read
    split at read
    · cases read
    · exact (number_stops stop 256).suffix read
  behind := by
    intro s r
    unfold octet?
    rw [Text.takeWhile_behind stop]
    dsimp only
    split
    · rfl
    · exact (number_stops stop 256).behind s r

theorem v4_stops (stop : isDigit c = false) (point : '.' ≠ c) : StopsAt c v4? := by
  have octet := octet_stops stop
  exact octet.bind fun w => .mark point <| octet.bind fun x => .mark point <|
    octet.bind fun y => .mark point <| octet.bind fun z => .done [w, x, y, z]

theorem dotted_stops (stop : isDigit c = false) (point : '.' ≠ c) : StopsAt c dotted? where
  suffix := by
    intro s ip r read
    unfold dotted? at read
    split at read
    · next octets =>
      obtain ⟨-, rfl⟩ := Prod.mk.inj (Option.some.inj read)
      exact (v4_stops stop point).suffix octets
    · cases read
  behind := by
    intro s r
    unfold dotted?
    rw [(v4_stops stop point).behind]
    rcases v4? s with _ | ⟨_ | ⟨a, _ | ⟨b, _ | ⟨d, _ | ⟨e, _ | ⟨x, os⟩⟩⟩⟩⟩, t⟩ <;> rfl

/-- A decimal digit is a hexadecimal one. -/
theorem isDigit_of_hexValue (stop : Bytes.hexValue? c = none) : isDigit c = false := by
  unfold Bytes.hexValue? at stop
  split at stop
  · cases stop
  · next other => simpa [isDigit] using other

theorem group_stops (stop : Bytes.hexValue? c = none) : StopsAt c group? where
  suffix := by
    intro s n r read
    unfold group? at read
    dsimp only at read
    split at read
    · cases read
    · obtain ⟨-, rfl⟩ := Prod.mk.inj (Option.some.inj read)
      exact List.dropWhile_suffix _
  behind := by
    intro s r
    have stop' : (Bytes.hexValue? c).isSome = false := by rw [stop, Option.isSome_none]
    unfold group?
    rw [Text.takeWhile_behind (p := fun c => (Bytes.hexValue? c).isSome) stop',
      Text.dropWhile_behind (p := fun c => (Bytes.hexValue? c).isSome) stop']
    dsimp only
    split <;> rfl

section

variable (stop : Bytes.hexValue? c = none) (colon : ':' ≠ c) (point : '.' ≠ c)
include stop colon point

/-- Groups are read as far as they go, which is a reader that cannot fail. -/
theorem groups_behind (limit : Nat) (first : Bool) (s r : List Char) :
    groups limit first (s ++ c :: r) =
      ((groups limit first s).1, (groups limit first s).2.1 ++ c :: r, (groups limit first s).2.2)
    := by
  induction limit generalizing first s with
  | zero => rfl
  | succ n ih =>
    have v4 := v4_stops (isDigit_of_hexValue stop) point
    have next : (if first then some (s ++ c :: r) else mark? ':' (s ++ c :: r)) =
        (if first then some s else mark? ':' s).map (· ++ c :: r) := by
      cases first with
      | true => rfl
      | false =>
        cases s with
        | nil => simp [mark?, colon]
        | cons d s => by_cases same : ':' = d <;> simp [mark?, same]
    rw [groups, groups, next]
    rcases (if first then some s else mark? ':' s) with _ | t
    · rfl
    have octets : (if 1 ≤ n then v4? (t ++ c :: r) else none) =
        (if 1 ≤ n then v4? t else none).map fun x => (x.1, x.2 ++ c :: r) := by
      split
      · exact v4.behind t r
      · rfl
    rw [Option.map_some]
    dsimp only
    rw [octets, (group_stops stop).behind]
    rcases (if 1 ≤ n then v4? t else none) with _ | ⟨os, u⟩
    · rcases group? t with _ | ⟨g, u⟩
      · rfl
      · simp only [Option.map_none, Option.map_some, ih]
    · rfl

omit colon in
theorem groups_suffix (limit : Nat) (first : Bool) (s : List Char) :
    (groups limit first s).2.1 <:+ s := by
  induction limit generalizing first s with
  | zero => exact List.suffix_rfl
  | succ n ih =>
    rw [groups]
    rcases hn : (if first then some s else mark? ':' s) with _ | t
    · exact List.suffix_rfl
    have behind_mark : t <:+ s := by
      cases first with
      | true =>
        obtain rfl := Option.some.inj hn
        exact List.suffix_rfl
      | false => exact mark_suffix hn
    dsimp only
    rcases ho : (if 1 ≤ n then v4? t else none) with _ | ⟨os, u⟩
    · rcases hg : group? t with _ | ⟨g, u⟩
      · exact List.suffix_rfl
      · exact (ih false u).trans (((group_stops stop).suffix hg).trans behind_mark)
    · split at ho
      · exact ((v4_stops (isDigit_of_hexValue stop) point).suffix ho).trans behind_mark
      · cases ho

theorem groups_stops (limit : Nat) : StopsAt c fun s =>
    some ((groups limit true s).1, (groups limit true s).2.1) where
  suffix := by
    intro s gs r read
    obtain ⟨-, rfl⟩ := Prod.mk.inj (Option.some.inj read)
    exact groups_suffix stop point limit true s
  behind s r := by rw [groups_behind stop colon point, Option.map_some]

/-- Two colons stand for the groups of zeros between those before them and those behind. -/
theorem gap_stops (head : List Nat) : StopsAt c fun s =>
    (mark? ':' s).bind fun s => (mark? ':' s).bind fun s =>
      (some ((groups (8 - head.length - 1) true s).1,
        (groups (8 - head.length - 1) true s).2.1)).bind fun x =>
          some (head ++ List.replicate (8 - head.length - x.1.length) 0 ++ x.1, x.2) :=
  .mark colon <| .mark colon <| (groups_stops stop colon point _).bind fun tail =>
    .done (head ++ List.replicate (8 - head.length - tail.length) 0 ++ tail)

theorem v6_stops : StopsAt c v6? where
  suffix := by
    intro s gs r read
    have before := groups_suffix stop point 8 true s
    unfold v6? at read
    generalize groups 8 true s = x at read before
    obtain ⟨head, rest, ended⟩ := x
    dsimp only at read before
    split at read
    · obtain ⟨-, rfl⟩ := Prod.mk.inj (Option.some.inj read)
      exact before
    split at read
    · cases read
    · exact ((gap_stops stop colon point head).suffix read).trans before
  behind := by
    intro s r
    unfold v6?
    rw [groups_behind stop colon point]
    rcases groups 8 true s with ⟨head, rest, ended⟩
    dsimp only
    split
    · rfl
    split
    · rfl
    · exact (gap_stops stop colon point head).behind rest r

omit colon point in
theorem scope_stops (percent : '%' ≠ c) : StopsAt c scope? where
  suffix := by
    intro s n r read
    unfold scope? at read
    split at read
    · exact ((number_stops (isDigit_of_hexValue stop) _).suffix read).trans (List.suffix_cons _ _)
    · obtain ⟨-, rfl⟩ := Prod.mk.inj (Option.some.inj read)
      exact List.suffix_rfl
  behind := by
    intro s r
    have number := number_stops (isDigit_of_hexValue stop) 4294967296
    cases s with
    | nil => simp [scope?, percent.symm]
    | cons d s =>
      by_cases same : d = '%'
      · simpa [scope?, same] using number.behind s r
      · simp [scope?, same]

theorem scoped_stops (percent : '%' ≠ c) : StopsAt c scoped? :=
  (v6_stops stop colon point).bind fun groups =>
    (scope_stops stop percent).bind fun scope => .done (IpAddress.v6 groups scope)

end

/-! ## Addresses and ports on their own -/

/-- A text of four octets is none of eight groups: the octets would end it. -/
theorem v6_of_v4 {s r : List Char} {os : List Nat} (octets : v4? s = some (os, r)) :
    v6? s = none := by
  have head : groups 8 true s = (groupsOfOctets os, r, true) := by simp [groups, octets]
  have short : (groupsOfOctets os).length ≤ 2 := by
    unfold groupsOfOctets
    split <;> simp
  have few : (groupsOfOctets os).length ≠ 8 := by omega
  unfold v6?
  simp [head, few]

theorem mark_eq {d : Char} {s t : List Char} (marked : mark? d s = some t) : s = d :: t := by
  cases s with
  | nil => cases marked
  | cons e s =>
    rw [mark?] at marked
    split at marked
    · next same => rw [same, Option.some.inj marked]
    · cases marked

/-- Digits are a port on their own if they are a number that is not too high. -/
theorem portNumber_of_digits {ds r : List Char} {n : Nat} (digits : ∀ c ∈ ds, isDigit c = true)
    (number : number? 65536 ds = some (n, r)) : portNumber? ds = some n := by
  cases ds with
  | nil => cases number
  | cons d ds =>
    have unsigned : d ≠ '+' := by
      rintro rfl
      exact absurd (digits '+' List.mem_cons_self) (by decide)
    have all : (d :: ds).all isDigit = true := List.all_eq_true.2 digits
    simp [portNumber?, unsigned, all, number]

/-- A port at the end of a literal is a port on its own, with a colon in front of it. -/
theorem portEnd_eq {s : List Char} {port : Nat} (read : portEnd? s = some port) :
    ∃ ds, s = ':' :: ds ∧ ':' ∉ ds ∧ portNumber? ds = some port := by
  obtain ⟨ds, marked, read⟩ := Option.bind_eq_some_iff.1 read
  obtain ⟨⟨n, rest⟩, number, read⟩ := Option.bind_eq_some_iff.1 read
  have nothing : rest = [] ∧ n = port := by
    simpa [List.isEmpty_iff] using read
  obtain ⟨rfl, rfl⟩ := nothing
  have digits : ∀ c ∈ ds, isDigit c = true := by
    have left := number
    unfold number? at left
    dsimp only at left
    split at left
    · cases left
    · obtain ⟨-, none_⟩ := Prod.mk.inj (Option.some.inj left)
      simpa using List.dropWhile_eq_nil_iff.1 none_
  refine ⟨ds, mark_eq marked, ?_, portNumber_of_digits digits number⟩
  intro colon
  exact absurd (digits ':' colon) (by decide)

end SocketAddress

/-! ## Hosts -/

/-- Reads an address without a port, and without brackets. -/
def IpAddress.parse? (s : String) : Option IpAddress :=
  match SocketAddress.dotted? s.toList with
  | some (ip, []) => some ip
  | _ =>
    match SocketAddress.scoped? s.toList with
    | some (ip, []) => some ip
    | _ => none

/-- A text is the host that is dialed: the name, or the address on its own. -/
def Destination.IsHost : Destination → String → Prop
  | .named host _, text => text = host
  | .literal a, text => IpAddress.parse? text = some a.ip

/-- The destination is a literal with brackets around the address. -/
def Destination.isBracketed : Destination → Bool
  | .literal ⟨.v6 _ _, _⟩ => true
  | _ => false

theorem splitHostPort_of_port {s : String} {host ds : List Char} {port : Nat}
    (cut : s.toList = host ++ ':' :: ds) (plain : ':' ∉ ds) (read : portNumber? ds = some port) :
    splitHostPort s = (String.ofList host, port) := by
  rw [splitHostPort, cut, Text.cutLast_append plain]
  simp [read]

/-- A text of eight groups is none of four octets. -/
theorem SocketAddress.dotted_of_scoped {s : List Char} {x : IpAddress × List Char}
    (address : scoped? s = some x) : dotted? s = none := by
  unfold dotted?
  rcases octets : v4? s with _ | ⟨os, r⟩
  · rfl
  · rw [scoped?, v6_of_v4 octets] at address
    cases address

/-- A literal of four octets is an address and a port. -/
theorem SocketAddress.split_dotted {s : String} {ip : IpAddress} {r : List Char} {port : Nat}
    (address : dotted? s.toList = some (ip, r)) (end_ : portEnd? r = some port) :
    ∃ host, splitHostPort s = (host, port) ∧ IpAddress.parse? host = some ip := by
  obtain ⟨ds, rfl, plain, read⟩ := portEnd_eq end_
  have stops : StopsAt ':' dotted? := dotted_stops (by decide) (by decide)
  obtain ⟨t, cut, alone⟩ := stops.alone address
  refine ⟨String.ofList t, splitHostPort_of_port cut plain read, ?_⟩
  simp [IpAddress.parse?, alone]

/-- A literal of eight groups is an address between brackets, and a port. -/
theorem SocketAddress.split_scoped {s : String} {x r : List Char} {ip : IpAddress} {port : Nat}
    (bracket : s.toList = '[' :: x) (address : scoped? x = some (ip, ']' :: r))
    (end_ : portEnd? r = some port) :
    ∃ host, splitHostPort s = ("[" ++ host ++ "]", port) ∧ IpAddress.parse? host = some ip := by
  obtain ⟨ds, rfl, plain, read⟩ := portEnd_eq end_
  have stops : StopsAt ']' scoped? :=
    scoped_stops (by decide) (by decide) (by decide) (by decide)
  obtain ⟨t, rfl, alone⟩ := stops.alone address
  have cut : s.toList = ('[' :: t ++ [']']) ++ ':' :: ds := by simp [bracket]
  have between : String.ofList ('[' :: t ++ [']']) = "[" ++ String.ofList t ++ "]" := by
    simp [String.ofList_append, String.ofList_cons, String.append_assoc]
  refine ⟨String.ofList t, ?_, ?_⟩
  · rw [splitHostPort_of_port cut plain read, between]
  · have undotted : dotted? t = none := dotted_of_scoped alone
    simp [IpAddress.parse?, undotted, alone]

theorem SocketAddress.ip_of_dotted {s r : List Char} {ip : IpAddress}
    (address : dotted? s = some (ip, r)) : ∃ a b c d, ip = .v4 a b c d := by
  unfold dotted? at address
  split at address
  · obtain ⟨rfl, -⟩ := Prod.mk.inj (Option.some.inj address)
    exact ⟨_, _, _, _, rfl⟩
  · cases address

theorem SocketAddress.ip_of_scoped {s r : List Char} {ip : IpAddress}
    (address : scoped? s = some (ip, r)) : ∃ groups scope, ip = .v6 groups scope := by
  obtain ⟨⟨groups, t⟩, -, address⟩ := Option.bind_eq_some_iff.1 address
  obtain ⟨⟨scope, u⟩, -, address⟩ := Option.bind_eq_some_iff.1 address
  obtain ⟨rfl, -⟩ := Prod.mk.inj (Option.some.inj address)
  exact ⟨groups, scope, rfl⟩

/-- The name or the address that is dialed stands in the address, with brackets around it in
    literals of eight groups. -/
theorem Destination.split_parse {s : String} {d : Destination} (accepted : parse s = .ok d) :
    ∃ bare, d.IsHost bare ∧
      splitHostPort s = (if d.isBracketed then "[" ++ bare ++ "]" else bare, d.port) := by
  unfold parse at accepted
  split at accepted
  · next a literal =>
    obtain rfl := Except.ok.inj accepted
    unfold SocketAddress.parse? at literal
    split at literal
    · next x bracket =>
      obtain ⟨⟨ip, r⟩, address, literal⟩ := Option.bind_eq_some_iff.1 literal
      obtain ⟨r', marked, literal⟩ := Option.bind_eq_some_iff.1 literal
      obtain ⟨port, end_, literal⟩ := Option.bind_eq_some_iff.1 literal
      obtain rfl := Option.some.inj literal
      obtain rfl := SocketAddress.mark_eq marked
      obtain ⟨groups, scope, rfl⟩ := SocketAddress.ip_of_scoped address
      obtain ⟨bare, split, host⟩ := SocketAddress.split_scoped bracket address end_
      exact ⟨bare, host, split⟩
    · next cs unbracketed =>
      obtain ⟨⟨ip, r⟩, address, literal⟩ := Option.bind_eq_some_iff.1 literal
      obtain ⟨port, end_, literal⟩ := Option.bind_eq_some_iff.1 literal
      obtain rfl := Option.some.inj literal
      obtain ⟨a, b, c, e, rfl⟩ := SocketAddress.ip_of_dotted address
      obtain ⟨bare, split, host⟩ := SocketAddress.split_dotted address end_
      exact ⟨bare, host, split⟩
  · split at accepted
    · cases accepted
    · next host port cut =>
      split at accepted
      · cases accepted
      · next n read =>
        obtain rfl := Except.ok.inj accepted
        refine ⟨String.ofList host, rfl, ?_⟩
        rw [splitHostPort, cut]
        simp [read, isBracketed, Destination.port]

/-- A connection is made to the host of the destination, on its port. -/
theorem Destination.IsHost.endpoint {d : Destination} {text : String} (host : d.IsHost text)
    {ε : Type} {resolve : String → Except ε IpAddress} {a : SocketAddress}
    (reached : d.endpoint resolve = .ok a) :
    a.port = d.port ∧ (IpAddress.parse? text = some a.ip ∨ resolve text = .ok a.ip) := by
  cases d with
  | literal b =>
    obtain rfl : b = a := Except.ok.inj reached
    exact ⟨rfl, .inl host⟩
  | named name port =>
    obtain rfl : text = name := host
    rw [Destination.endpoint] at reached
    rcases resolved : resolve text with e | ip
    · rw [resolved] at reached
      cases reached
    · rw [resolved] at reached
      obtain rfl := Except.ok.inj reached
      exact ⟨rfl, .inr rfl⟩

/-- A key is accepted if the list has it under the host and the port that the address is split
    into. -/
theorem Ssh.checkHostKey_iff {κ : Type} {server : Server κ} {address path host : String}
    {port : Nat} {key : κ} {read : String → Except Failure (HostList κ)} {list : HostList κ}
    (split : splitHostPort address = (host, port)) (presented : server.hostKey? = some key)
    (lists : server.lists = .ok read) (opened : read path = .ok list) :
    checkHostKey server address (.knownHosts path) = .ok () ↔ list host port key = .listed := by
  have checked : checkHostKey server address (.knownHosts path) =
      (list host port key).outcome address path := by
    simp [checkHostKey, presented, lists, opened, split, bind, Except.bind, Except.mapError]
  rw [checked]
  cases list host port key <;> simp [KeyVerdict.outcome]

/-- **Keys are looked up under the host that is dialed**, and under the port: whatever the
    address is, if it can be dialed. Only an address that has brackets around it in the literal
    is looked up with them. -/
theorem lookup_dialed {s : String} {d : Destination} (accepted : Destination.parse s = .ok d) :
    ∃ host bare, splitHostPort s = (host, d.port) ∧ d.IsHost bare ∧
      host = (if d.isBracketed then "[" ++ bare ++ "]" else bare) ∧
      (∀ {ε : Type} (resolve : String → Except ε IpAddress) (a : SocketAddress),
        d.endpoint resolve = .ok a →
          a.port = d.port ∧ (IpAddress.parse? bare = some a.ip ∨ resolve bare = .ok a.ip)) ∧
      ∀ {κ : Type} (server : Ssh.Server κ) (path : String) (key : κ)
        (read : String → Except Failure (Ssh.HostList κ)) (list : Ssh.HostList κ),
        server.hostKey? = some key → server.lists = .ok read → read path = .ok list →
          (Ssh.checkHostKey server s (.knownHosts path) = .ok () ↔
            list host d.port key = .listed) := by
  obtain ⟨bare, host, split⟩ := Destination.split_parse accepted
  refine ⟨_, bare, split, host, rfl, ?_, ?_⟩
  · intro ε resolve a reached
    exact host.endpoint reached
  · intro κ server path key read list presented lists opened
    exact Ssh.checkHostKey_iff split presented lists opened

/-- A name with a port that has a sign and a zero in front. -/
theorem web_looked_up : Destination.parse "web:+022" = .ok (.named "web" 22) ∧
    splitHostPort "web:+022" = ("web", 22) := by
  have accepted : Destination.parse "web:+022" = .ok (.named "web" 22) := by decide +kernel
  obtain ⟨host, bare, split, rfl, rfl, -⟩ := lookup_dialed accepted
  exact ⟨accepted, split⟩

/-- The list of a machine that knows one host by its address. -/
def loopbackList : Ssh.HostList String := fun host port key =>
  if host = "::1" ∧ port = 22 ∧ key = "key" then .listed else .unlisted

/-- **An address between brackets is looked up with them**, where no list has it: the key of this
    host is listed, and refused. -/
theorem brackets_looked_up :
    Destination.parse "[::1]:22" = .ok (.literal ⟨.v6 [0, 0, 0, 0, 0, 0, 0, 1] 0, 22⟩) ∧
    Destination.IsHost (.literal ⟨.v6 [0, 0, 0, 0, 0, 0, 0, 1] 0, 22⟩) "::1" ∧
    ¬ Destination.IsHost (.literal ⟨.v6 [0, 0, 0, 0, 0, 0, 0, 1] 0, 22⟩)
      (splitHostPort "[::1]:22").1 ∧
    loopbackList "::1" 22 "key" = .listed ∧
    Ssh.checkHostKey ⟨some "key", .ok fun _ => .ok loopbackList⟩ "[::1]:22"
      (.knownHosts "known_hosts") = .error (.of "no entry for [::1]:22 in known_hosts") := by
  refine ⟨by decide +kernel, ?_, ?_, by decide +kernel, by decide +kernel⟩
  · show IpAddress.parse? "::1" = some (.v6 [0, 0, 0, 0, 0, 0, 0, 1] 0)
    decide +kernel
  · show ¬ IpAddress.parse? (splitHostPort "[::1]:22").1 =
      some (.v6 [0, 0, 0, 0, 0, 0, 0, 1] 0)
    decide +kernel

end Runbook
