/-
  What a document compiles to, read off the document itself.

  * `Node.sites` lists the scopes that a document describes, each before those inside it:
    their names, their entries, and the hosts around them;
  * `Site.scope` is the scope that a site describes: the last value of each setting among
    its own entries counts, and nothing else;
  * `Node.item?` is the item that one entry is compiled to;
  * `ofDocument_placed`: the scopes of a compiled chain are those of the document.
-/
import Runbook.Chain.Compile
import Runbook.Proofs.Chain.Listing

namespace Runbook

open Session (resting)

/-- The value that an entry gives to a setting. -/
def Node.setting? (key : String) : Node → Option String
  | .block key' (.scalar value) => if key' = key then some value else none
  | _ => none

/-- The last value that is given to a setting among some entries. -/
def lastSetting (key : String) (entries : List Node) : Option String :=
  (entries.filterMap (Node.setting? key)).getLast?

/-- A scope that a document describes. -/
structure Site where
  name : String
  entries : List Node
  /-- The hosts around it; the outermost scope has nothing around it. -/
  around : Option (List String)

namespace Site

/-- What the entries of the scope itself declare. -/
def declared (x : Site) : Declarations where
  addr := lastSetting "addr" x.entries
  user := lastSetting "user" x.entries
  password := lastSetting "password" x.entries

/-- Where the scope connects to, as whom and with what. -/
def params (x : Site) : Params where
  address := x.declared.addr.getD ""
  user := x.declared.user.getD ""
  auth := (x.declared.password.map AuthMethod.password).toList

/-- The scope that is described. -/
def scope (st : Settings) (x : Site) : Scope where
  name := x.name
  session := resting st x.params
  discovery := st.discovery

theorem scope_address (st : Settings) (x : Site) : (x.scope st).address = x.params.address := rfl

end Site

mutual

/-- The scopes that a node under a name describes, each before those inside it. -/
def Node.sites (name : String) (around : Option (List String)) : Node → List Site
  | .sequence entries =>
    ⟨name, entries, around⟩ :: sitesAll
      (hostsWithin (around.getD []) ((lastSetting "addr" entries).getD "")) entries
  | _ => []

/-- The scopes that the entries of a scope describe. -/
def sitesAll (hosts : List String) : List Node → List Site
  | [] => []
  | entry :: rest => entry.sitesOfEntry hosts ++ sitesAll hosts rest

/-- The scopes that one entry of a scope describes. Settings describe none. -/
def Node.sitesOfEntry (hosts : List String) : Node → List Site
  | .block key value =>
    if Declarations.isReserved key then [] else value.sites key (some hosts)
  | _ => []

end

/-- The scopes that a document describes, the outermost first. -/
def Node.documentSites : Node → List Site
  | .block key value => value.sites key none
  | _ => []

/-! ## Settings -/

/-- What some entries declare, after what was declared before. -/
def Declarations.after (d : Declarations) (entries : List Node) : Declarations where
  addr := (lastSetting "addr" entries).or d.addr
  user := (lastSetting "user" entries).or d.user
  password := (lastSetting "password" entries).or d.password

theorem lastSetting_append (key : String) (xs ys : List Node) :
    lastSetting key (xs ++ ys) = (lastSetting key ys).or (lastSetting key xs) := by
  simp [lastSetting, List.getLast?_append]

theorem lastSetting_singleton (key : String) (entry : Node) :
    lastSetting key [entry] = entry.setting? key := by
  unfold lastSetting
  rcases h : entry.setting? key with _ | v <;> simp [h]

theorem Declarations.after_append (d : Declarations) (xs ys : List Node) :
    d.after (xs ++ ys) = (d.after xs).after ys := by
  simp [after, lastSetting_append, Option.or_assoc]

/-- A value that is recorded is that of the last entry. -/
theorem Declarations.after_scalar {d : Declarations} {key value : String}
    (reserved : isReserved key = true) :
    (d.record key value).getD d = d.after [.block key (.scalar value)] := by
  have key_of : key = "addr" ∨ key = "user" ∨ key = "password" := by
    simpa [isReserved, reservedKeys] using reserved
  rcases key_of with rfl | rfl | rfl <;>
    simp [record, after, lastSetting_singleton, Node.setting?]

/-- An entry that gives no reserved key a text declares nothing. -/
theorem Declarations.after_other {d : Declarations} {entry : Node}
    (other : ∀ key ∈ reservedKeys, entry.setting? key = none) : d.after [entry] = d := by
  simp [after, lastSetting_singleton, other _ (by simp [reservedKeys] : "addr" ∈ reservedKeys),
    other _ (by simp [reservedKeys] : "user" ∈ reservedKeys),
    other _ (by simp [reservedKeys] : "password" ∈ reservedKeys)]

variable {st : Settings} {name : String}

theorem addEntry_declared (entry : Node) (r : Reading) :
    (r.addEntry st name entry).declared = r.declared.after [entry] := by
  cases entry with
  | scalar line | sequence items | other shape =>
    rw [Declarations.after_other fun _ _ => rfl]
    simp [Reading.addEntry]
  | block key value =>
    unfold Reading.addEntry
    by_cases reserved : Declarations.isReserved key = true
    · rw [if_pos reserved]
      cases value with
      | scalar text => exact Declarations.after_scalar reserved
      | block _ _ | sequence _ | other _ => rw [Declarations.after_other fun _ _ => rfl]; rfl
    · rw [if_neg reserved, Declarations.after_other]
      · rcases Chain.compile st key value none with ⟨_ | c, es⟩ <;> rfl
      · intro key' reserved'
        cases value with
        | scalar text =>
          have apart : key ≠ key' := by
            rintro rfl
            exact reserved (List.contains_iff_mem.2 reserved')
          simp [Node.setting?, apart]
        | block _ _ | sequence _ | other _ => rfl

theorem ofEntries_declared : ∀ (entries : List Node) (r : Reading),
    (Reading.ofEntries st name entries r).declared = r.declared.after entries
  | [], r => by simp [Reading.ofEntries, Declarations.after, lastSetting]
  | entry :: rest, r => by
    rw [Reading.ofEntries, ofEntries_declared rest, addEntry_declared,
      ← Declarations.after_append, List.singleton_append]

/-! ## Scopes -/

/-- What is read off the entries of a scope is what its site declares. -/
theorem ofEntries_site (entries : List Node) (around : Option (List String)) :
    (Reading.ofEntries st name entries {}).declared = (Site.mk name entries around).declared := by
  rw [ofEntries_declared]
  simp [Declarations.after, Site.declared]

/-- A sequence compiles to the scope that its entries describe. -/
theorem compile_sequence (entries : List Node) (around : Option (List String)) :
    (Chain.compile st name (.sequence entries) none).1 = some
      { scope := Site.scope st ⟨name, entries, around⟩
        items := (Reading.ofEntries st name entries {}).items } := by
  simp only [Chain.compile, Scope.withReading, ofEntries_site entries around]
  by_cases idle : (Site.mk name entries around).declared.isEmpty = true
  · obtain ⟨⟨addr, user⟩, password⟩ := by simpa [Declarations.isEmpty] using idle
    rw [if_pos idle]
    simp [Scope.fresh, Site.scope, Site.params, addr, user, password, resting,
      RemoteShell.ofSettings]
  · rw [if_neg idle]
    simp [Scope.fresh, Site.scope, Site.params, Session.configure, RemoteShell.configure,
      RemoteShell.ofSettings, Params.merge, resting]

/-- A sequence is compiled with the notices that its entries give. -/
theorem compile_events (name : String) (entries : List Node) :
    (Chain.compile st name (.sequence entries) none).2 =
      (Reading.ofEntries st name entries {}).events := by
  rw [Chain.compile]
  dsimp only [Scope.withReading]
  split
  · rfl
  · exact List.append_nil _

/-! ## Items -/

/-- The item that an entry is compiled to, if it is one. -/
def Node.item? (st : Settings) : Node → Option Item
  | .scalar line => some (.command line)
  | .block key value =>
    if Declarations.isReserved key then none
    else (Chain.compile st key value none).1.map Chain.toItem
  | _ => none

theorem addEntry_items (name : String) (entry : Node) (r : Reading) :
    (r.addEntry st name entry).items = r.items ++ (entry.item? st).toList := by
  cases entry with
  | scalar _ | sequence _ | other _ => simp [Reading.addEntry, Node.item?]
  | block key value =>
    dsimp only [Reading.addEntry, Node.item?]
    by_cases reserved : Declarations.isReserved key = true
    · rw [if_pos reserved, if_pos reserved]
      split <;> simp
    · rw [if_neg reserved, if_neg reserved]
      rcases Chain.compile st key value none with ⟨_ | c, es⟩ <;> simp

/-- The items of a scope are those of its entries. -/
theorem ofEntries_items (name : String) : ∀ (entries : List Node) (r : Reading),
    (Reading.ofEntries st name entries r).items = r.items ++ entries.filterMap (Node.item? st)
  | [], r => by simp [Reading.ofEntries]
  | entry :: rest, r => by
    rw [Reading.ofEntries, ofEntries_items name rest, addEntry_items, List.append_assoc]
    rcases h : entry.item? st with _ | i <;> simp [h]

theorem item?_scope {key : String} (scope : Declarations.isReserved key = false)
    (entries : List Node) : (Node.block key (.sequence entries)).item? st =
      some (.chain (Site.scope st ⟨key, entries, none⟩) (entries.filterMap (Node.item? st))) := by
  rw [Node.item?, scope, if_neg nofun, compile_sequence entries none, ofEntries_items]
  rfl

/-! ## The whole document -/

mutual

theorem compile_placed : ∀ (node : Node) (name : String) (around : Option (List String)),
    ((Chain.compile st name node none).1.map fun c => c.toItem.placed around).getD [] =
      (node.sites name around).map fun x => (x.around, x.scope st)
  | .sequence entries, name, around => by
    have items := ofEntries_placed entries name
      (hostsWithin (around.getD []) ((lastSetting "addr" entries).getD "")) {}
    rw [compile_sequence entries around]
    simpa [Node.sites, Chain.toItem, Item.placed, placedAll, Site.scope_address, Site.params,
      Site.declared] using items
  | .scalar _, _, _ | .block _ _, _, _ | .other _, _, _ => by simp [Chain.compile, Node.sites]

theorem ofEntries_placed : ∀ (entries : List Node) (name : String) (hosts : List String)
    (r : Reading), placedAll hosts (Reading.ofEntries st name entries r).items =
      placedAll hosts r.items ++ (sitesAll hosts entries).map fun x => (x.around, x.scope st)
  | [], name, hosts, r => by simp [Reading.ofEntries, sitesAll]
  | entry :: rest, name, hosts, r => by
    rw [Reading.ofEntries, ofEntries_placed rest, addEntry_placed entry, sitesAll,
      List.map_append, List.append_assoc]

theorem addEntry_placed : ∀ (entry : Node) (name : String) (hosts : List String)
    (r : Reading), placedAll hosts (r.addEntry st name entry).items =
      placedAll hosts r.items ++ (entry.sitesOfEntry hosts).map fun x => (x.around, x.scope st)
  | .scalar line, name, hosts, r => by
    simp [Reading.addEntry, Node.sitesOfEntry, placedAll, Item.placed]
  | .sequence _, name, hosts, r => by simp [Reading.addEntry, Node.sitesOfEntry]
  | .other _, name, hosts, r => by simp [Reading.addEntry, Node.sitesOfEntry]
  | .block key value, name, hosts, r => by
    have compiled := compile_placed value key (some hosts)
    unfold Reading.addEntry Node.sitesOfEntry
    by_cases reserved : Declarations.isReserved key = true
    · rw [if_pos reserved, if_pos reserved]
      cases value <;> simp [Node.scalar?]
    · rw [if_neg reserved, if_neg reserved, ← compiled]
      rcases Chain.compile st key value none with ⟨_ | c, es⟩
      · simp
      · simp [placedAll]

end

variable {document : Node} {c : Chain} {es : List Event}

/-- **The scopes of a compiled chain are those that its document describes**, in the same
    order and with the same hosts around them. -/
theorem ofDocument_placed (compiled : Chain.ofDocument st document = (.ok c, es)) :
    c.toItem.placed none = document.documentSites.map fun x => (x.around, x.scope st) := by
  cases document with
  | scalar _ | sequence _ | other _ => simp [Chain.ofDocument] at compiled
  | block key value =>
    have placed := @compile_placed st value key none
    rw [Chain.ofDocument] at compiled
    rcases hc : Chain.compile st key value none with ⟨_ | c', es'⟩
    · simp [hc] at compiled
    · obtain ⟨rfl, rfl⟩ : c' = c ∧ es' = es := by simpa [hc] using compiled
      simpa [hc, Node.documentSites] using placed

theorem ofDocument_scopes (compiled : Chain.ofDocument st document = (.ok c, es)) :
    c.scopes = document.documentSites.map fun x => x.scope st := by
  have placed := congrArg (List.map Prod.snd) (ofDocument_placed compiled)
  simpa [Chain.scopes, Function.comp_def] using placed

/-- The sessions of a compiled chain are at rest. -/
theorem ofDocument_rests (compiled : Chain.ofDocument st document = (.ok c, es)) :
    Rests st c.scopes := by
  intro s hs
  rw [ofDocument_scopes compiled] at hs
  obtain ⟨x, -, rfl⟩ := List.mem_map.1 hs
  exact ⟨x.params, rfl⟩

/-! ## A sample -/

/-- Commands on this machine around a scope on another one. -/
def sampleDocument : Node :=
  .block "deploy" (.sequence
    [.scalar "make",
      .block "web" (.sequence
        [.block "addr" (.scalar "web:22"), .block "user" (.scalar "ops"), .scalar "restart",
          .block "password" (.scalar "s3cret")]),
      .scalar "report"])

/-- Settings with discovery. -/
def sampleSettings : Settings := { discovery := some {} }

/-- What the sample compiles to. -/
def sampleChain : Chain where
  scope := { name := "deploy", session := resting sampleSettings {}, discovery := some {} }
  items :=
    [.command "make",
      .chain
        { name := "web"
          session := resting sampleSettings
            { address := "web:22", user := "ops", auth := [.password "s3cret"] }
          discovery := some {} }
        [.command "restart"],
      .command "report"]

theorem sample_compiles :
    Chain.ofDocument sampleSettings sampleDocument = (.ok sampleChain, []) := rfl

/-- A host that grants everything. A private key can be read on this machine. -/
def Host.granting : Host Unit where
  dial _ := pure (.ok 7)
  openChannel _ := pure (.ok ())
  execute _ _ := pure ⟨[], .ok 0⟩
  closeChannel _ := pure (.ok ())
  disconnect _ := pure (.ok ())
  spawn p :=
    let output :=
      if p.command = "echo $HOME" then "/root\n"
      else if p.command = "ls -1 /root/.ssh" then "id_rsa\nnotes\n"
      else if p.command = "cat /root/.ssh/id_rsa" then "PRIVATE KEY"
      else ""
    pure (.ok ⟨Bytes.ofUnits output, [], .exited 0⟩)
  customRun _ _ := pure ⟨[], .ok ()⟩
  customConnect _ := pure (.ok ())
  customClose _ := pure (.ok ())

end Runbook
