import Stagehand.Proofs.Config.Word
import Stagehand.Proofs.Yaml.Nodes

/-! # A configuration as an object

A configuration is stated by an object with a member for each setting, in any order; a member may be
missing if its setting has the default.  What is read from the object of a section, and from that of the
whole configuration, is the configuration itself.
-/

set_option autoImplicit false

namespace Stagehand

open Yaml

namespace Config

/-- A setting as a member of an object. -/
structure Setting where
  name : String
  value : Datum
  /-- The value is the one that is taken if the member is missing. -/
  omissible : Prop

/-- The members state the settings in their order, and leave out only what may be left out. -/
inductive StatesInOrder : List (String × Datum) → List Setting → Prop where
  | nil : StatesInOrder [] []
  | stated {members : List (String × Datum)} {settings : List Setting} {name : String}
      {value : Datum} {omissible : Prop} : StatesInOrder members settings →
      StatesInOrder ((name, value) :: members) (⟨name, value, omissible⟩ :: settings)
  | omitted {members : List (String × Datum)} {settings : List Setting} {name : String}
      {value : Datum} {omissible : Prop} : omissible → StatesInOrder members settings →
      StatesInOrder members (⟨name, value, omissible⟩ :: settings)

/-- The members state the settings, in any order. -/
def States (members : List (String × Datum)) (settings : List Setting) : Prop :=
  ∃ ordered, StatesInOrder ordered settings ∧ members.Perm ordered

end Config

/-! ## Objects of a configuration -/

section Objects

open Config

def StorageConfig.members (storage : StorageConfig) : List Setting :=
  [⟨"endpoint", .text storage.endpoint, False⟩,
   ⟨"username", .text storage.username, False⟩,
   ⟨"password", .text storage.password, False⟩,
   ⟨"bucket", .text storage.bucket, False⟩,
   ⟨"secure", .flag storage.secure, storage.secure = false⟩,
   ⟨"region", .text storage.region, storage.region = defaultRegion⟩]

def MessagingConfig.members (messaging : MessagingConfig) : List Setting :=
  [⟨"host", .text messaging.host, False⟩,
   ⟨"port", .word messaging.port, messaging.port = defaultPort⟩,
   ⟨"username", .text messaging.username, False⟩,
   ⟨"password", .text messaging.password, False⟩,
   ⟨"virtual_host", .text messaging.virtualHost, messaging.virtualHost = defaultVirtualHost⟩,
   ⟨"exchange", .text messaging.exchange, False⟩,
   ⟨"topic", .text messaging.topic, False⟩,
   ⟨"prefetch", .word messaging.prefetch, messaging.prefetch = defaultPrefetch⟩]

def Runner.members (runner : Runner) : List Setting :=
  [⟨"command", .text runner.command, runner.command = defaultCommand⟩,
   ⟨"quiet", .flag runner.quiet, runner.quiet = false⟩]

namespace Config

/-- The settings of a configuration, whose sections are objects themselves. -/
def members (config : Config) (storage messaging runner : Datum) : List Setting :=
  [⟨"working_dir", .text config.workingDirectory.text, False⟩,
   ⟨"ignore_json", .flag config.ignoreManifests, config.ignoreManifests = false⟩,
   ⟨"storage", storage, False⟩,
   ⟨"messaging", messaging, False⟩,
   ⟨"runner", runner, config.runner = Runner.default⟩]

/-- An object states the configuration, and the objects in it its sections. -/
inductive StatedBy (config : Config) : Datum → Prop where
  | objects {storage messaging runner whole : List (String × Datum)} :
      States storage config.storage.members → States messaging config.messaging.members →
      States runner config.runner.members →
      States whole (config.members (.object storage) (.object messaging) (.object runner)) →
      StatedBy config (.object whole)

/-- A JSON text of the configuration. -/
def IsText (config : Config) (text : String) : Prop :=
  ∃ value, config.StatedBy value ∧ value.IsText text

/-- The texts in a configuration. -/
def texts (config : Config) : List String :=
  [config.workingDirectory.text, config.storage.endpoint, config.storage.username,
   config.storage.password, config.storage.bucket, config.storage.region, config.messaging.host,
   config.messaging.username, config.messaging.password, config.messaging.virtualHost,
   config.messaging.exchange, config.messaging.topic, config.runner.command]

def Printable (config : Config) : Prop :=
  ∀ text ∈ config.texts, AllPrintable text.toList

end Config
end Objects

namespace Config

/-! ## Finding a member -/

theorem lookup_of_mem {fields : Fields} (distinct : (fields.map Prod.fst).Nodup) {name : String}
    {node : Yaml.Node} (member : (name, node) ∈ fields) : fields.lookup name = some node := by
  induction fields with
  | nil => cases member
  | cons field others ih =>
      obtain ⟨apart, distinct⟩ := List.nodup_cons.mp distinct
      rcases List.mem_cons.mp member with rfl | later
      · simp
      · have other : name ≠ field.1 := by
          rintro rfl
          exact apart (List.mem_map.mpr ⟨_, later, rfl⟩)
        rw [List.lookup_cons, beq_false_of_ne other]
        exact ih distinct later

/-- The fields that the members of an object are read as. -/
def fieldsOf (members : List (String × Datum)) : Fields :=
  members.map fun member => (member.1, member.2.node)

theorem names_fieldsOf (members : List (String × Datum)) :
    (fieldsOf members).map Prod.fst = members.map Prod.fst := by
  simp [fieldsOf]

theorem knownFields?_memberNodes {document : Document} {known seen : List String}
    {members : List (String × Datum)} (distinct : (members.map Prod.fst).Nodup)
    (apart : ∀ name ∈ members.map Prod.fst, name ∉ seen)
    (named : ∀ name ∈ members.map Prod.fst, name ∈ known) :
    knownFields? document known seen (Datum.memberNodes members) = some (fieldsOf members) := by
  induction members generalizing seen with
  | nil => rfl
  | cons member others ih =>
      obtain ⟨name, value⟩ := member
      obtain ⟨other, distinct⟩ := List.nodup_cons.mp distinct
      obtain ⟨fresh, apart⟩ := List.forall_mem_cons.mp apart
      obtain ⟨here, named⟩ := List.forall_mem_cons.mp named
      have beyond : ∀ later ∈ others.map Prod.fst, later ∉ name :: seen := by
        intro later member repeated
        rcases List.mem_cons.mp repeated with rfl | before
        · exact other member
        · exact apart later member before
      have rest := ih distinct beyond named
      simp only [Datum.memberNodes, knownFields?, scalarText?, Document.follow, String.ofList_toList]
      rw [if_pos here, if_neg fresh, rest]
      rfl

/-- A setting is found with its value, or it is missing and has the default. -/
def Found (fields : Fields) (setting : Setting) : Prop :=
  fields.lookup setting.name = some setting.value.node ∨
    fields.lookup setting.name = none ∧ setting.omissible

namespace StatesInOrder

variable {members : List (String × Datum)} {settings : List Setting}

theorem names_sublist (states : StatesInOrder members settings) :
    (members.map Prod.fst).Sublist (settings.map Setting.name) := by
  induction states with
  | nil => exact .slnil
  | stated _ ih => exact ih.cons_cons _
  | omitted _ _ ih => exact ih.cons _

theorem mem (states : StatesInOrder members settings) {member : String × Datum}
    (told : member ∈ members) : ∃ setting ∈ settings, member = (setting.name, setting.value) := by
  induction states with
  | nil => cases told
  | stated _ ih =>
      rcases List.mem_cons.mp told with rfl | later
      · exact ⟨_, List.mem_cons_self, rfl⟩
      · obtain ⟨setting, among, same⟩ := ih later
        exact ⟨setting, List.mem_cons_of_mem _ among, same⟩
  | omitted _ _ ih =>
      obtain ⟨setting, among, same⟩ := ih told
      exact ⟨setting, List.mem_cons_of_mem _ among, same⟩

theorem mem_or_omitted (states : StatesInOrder members settings)
    (distinct : (settings.map Setting.name).Nodup) {setting : Setting} (among : setting ∈ settings) :
    (setting.name, setting.value) ∈ members ∨
      setting.name ∉ members.map Prod.fst ∧ setting.omissible := by
  induction states with
  | nil => cases among
  | @stated members settings name value omissible states ih =>
      obtain ⟨apart, distinct⟩ := List.nodup_cons.mp distinct
      rcases List.mem_cons.mp among with rfl | later
      · exact Or.inl List.mem_cons_self
      · have other : setting.name ≠ name := by
          rintro rfl
          exact apart (List.mem_map.mpr ⟨setting, later, rfl⟩)
        rcases ih distinct later with told | ⟨missing, may⟩
        · exact Or.inl (List.mem_cons_of_mem _ told)
        · exact Or.inr ⟨List.not_mem_cons_of_ne_of_not_mem other missing, may⟩
  | @omitted members settings name value omissible may states ih =>
      obtain ⟨apart, distinct⟩ := List.nodup_cons.mp distinct
      rcases List.mem_cons.mp among with rfl | later
      · exact Or.inr ⟨fun told => apart (states.names_sublist.subset told), may⟩
      · exact ih distinct later

end StatesInOrder

namespace States

variable {members : List (String × Datum)} {settings : List Setting}

theorem names_nodup (states : States members settings)
    (distinct : (settings.map Setting.name).Nodup) : (members.map Prod.fst).Nodup := by
  obtain ⟨ordered, told, order⟩ := states
  exact (order.map Prod.fst).nodup_iff.mpr (distinct.sublist told.names_sublist)

theorem names_subset (states : States members settings) :
    ∀ name ∈ members.map Prod.fst, name ∈ settings.map Setting.name := by
  obtain ⟨ordered, told, order⟩ := states
  exact fun name member => told.names_sublist.subset ((order.map Prod.fst).mem_iff.mp member)

theorem mem (states : States members settings) {member : String × Datum} (stated : member ∈ members) :
    ∃ setting ∈ settings, member = (setting.name, setting.value) := by
  obtain ⟨ordered, told, order⟩ := states
  exact told.mem (order.mem_iff.mp stated)

theorem found (states : States members settings) (distinct : (settings.map Setting.name).Nodup)
    {setting : Setting} (among : setting ∈ settings) : Found (fieldsOf members) setting := by
  have once := states.names_nodup distinct
  obtain ⟨ordered, told, order⟩ := states
  rcases told.mem_or_omitted distinct among with stated | ⟨missing, may⟩
  · refine Or.inl (lookup_of_mem (by rwa [names_fieldsOf]) ?_)
    exact List.mem_map.mpr ⟨(setting.name, setting.value), order.mem_iff.mpr stated, rfl⟩
  · refine Or.inr ⟨List.lookup_eq_none_iff.mpr fun field member => bne_iff_ne.mpr ?_, may⟩
    rintro same
    refine missing ((order.map Prod.fst).mem_iff.mp ?_)
    rw [same, ← names_fieldsOf]
    exact List.mem_map_of_mem member

/-- From an object that states some settings, exactly these are read. -/
theorem reads (states : States members settings) (known : List String)
    (names : settings.map Setting.name = known) (distinct : known.Nodup) (document : Document) :
    fields? document known (Datum.object members).node = some (fieldsOf members) ∧
      ∀ setting ∈ settings, Found (fieldsOf members) setting := by
  subst names
  exact ⟨knownFields?_memberNodes (states.names_nodup distinct) (by simp) states.names_subset,
    fun setting => states.found distinct⟩

end States

/-! ## Reading a member -/

namespace Found

variable {document : Document} {fields : Fields} {name : String}

theorem text? {value : String} (found : Found fields ⟨name, .text value, False⟩) :
    text? document fields name = some value := by
  obtain told | ⟨-, never⟩ := found
  · simp [Config.text?, told, Datum.node, scalarText?, Document.follow]
  · exact never.elim

theorem textOr? {value default : String} (found : Found fields ⟨name, .text value, value = default⟩) :
    textOr? document fields name default = some value := by
  obtain told | ⟨missing, same⟩ := found
  · simp [Config.textOr?, told, Datum.node, scalarText?, Document.follow]
  · simpa [Config.textOr?, missing] using same.symm

theorem flag? {value : Bool} (found : Found fields ⟨name, .flag value, value = false⟩) :
    flag? document fields name = some value := by
  obtain told | ⟨missing, same⟩ := found
  · simp [Config.flag?, told, Datum.node, plainText?, Document.follow, flagOf?_toString]
  · simpa [Config.flag?, missing] using same.symm

theorem wordOr? {value default : UInt16}
    (found : Found fields ⟨name, .word value, value = default⟩) :
    wordOr? document fields name default = some value := by
  obtain told | ⟨missing, same⟩ := found
  · simp [Config.wordOr?, told, Datum.node, plainText?, Document.follow, wordOf?_toString]
  · simpa [Config.wordOr?, missing] using same.symm

theorem stated {value : Datum} (found : Found fields ⟨name, value, False⟩) :
    fields.lookup name = some value.node :=
  found.resolve_right fun missing => missing.2

end Found

/-! ## Reading a section -/

variable {members : List (String × Datum)} (document : Document)

theorem storage?_of_states {storage : StorageConfig} (states : States members storage.members) :
    storage? document (Datum.object members).node = some storage := by
  obtain ⟨fields, found⟩ := states.reads
    ["endpoint", "username", "password", "bucket", "secure", "region"] rfl (by decide) document
  simp only [StorageConfig.members, List.forall_mem_cons] at found
  obtain ⟨endpoint, username, password, bucket, secure, region, -⟩ := found
  simp only [storage?, fields, endpoint.text?, username.text?, password.text?, bucket.text?,
    secure.flag?, region.textOr?, Option.bind_eq_bind, Option.bind_some]

theorem messaging?_of_states {messaging : MessagingConfig}
    (states : States members messaging.members) :
    messaging? document (Datum.object members).node = some messaging := by
  obtain ⟨fields, found⟩ := states.reads
    ["host", "port", "username", "password", "virtual_host", "exchange", "topic", "prefetch"] rfl
    (by decide) document
  simp only [MessagingConfig.members, List.forall_mem_cons] at found
  obtain ⟨host, port, username, password, virtualHost, exchange, topic, prefetch, -⟩ := found
  simp only [messaging?, fields, host.text?, port.wordOr?, username.text?, password.text?,
    virtualHost.textOr?, exchange.text?, topic.text?, prefetch.wordOr?, Option.bind_eq_bind,
    Option.bind_some]

theorem runner?_of_states {runner : Runner} (states : States members runner.members) :
    runner? document (Datum.object members).node = some runner := by
  obtain ⟨fields, found⟩ := states.reads ["command", "quiet"] rfl (by decide) document
  simp only [Runner.members, List.forall_mem_cons] at found
  obtain ⟨command, quiet, -⟩ := found
  simp only [runner?, fields, command.textOr?, quiet.flag?, Option.bind_eq_bind, Option.bind_some]

/-- The configuration is read back from an object that states it. -/
theorem ofDocument?_of_statedBy {config : Config} {value : Datum} (stated : config.StatedBy value) :
    ofDocument? ⟨value.node, [], []⟩ = some config := by
  cases stated with
  | @objects storage messaging runner whole inStorage inMessaging inRunner states =>
      obtain ⟨fields, found⟩ := states.reads
        ["working_dir", "ignore_json", "storage", "messaging", "runner"] rfl (by decide)
        ⟨(Datum.object whole).node, [], []⟩
      simp only [Config.members, List.forall_mem_cons] at found
      obtain ⟨workingDirectory, ignoreManifests, hasStorage, hasMessaging, hasRunner, -⟩ := found
      simp only [ofDocument?, fields, workingDirectory.text?, ignoreManifests.flag?,
        hasStorage.stated, hasMessaging.stated, storage?_of_states _ inStorage,
        messaging?_of_states _ inMessaging, Option.bind_eq_bind, Option.bind_some]
      obtain told | ⟨missing, same⟩ := hasRunner
      · simp only at told
        simp only [told, runner?_of_states _ inRunner, Option.bind_some]
      · simp only at missing
        have same : config.runner = Runner.default := same
        simp only [missing, ← same]

/-! ## Reading a text -/

/-- An object can be written if the names and values of the settings that it states can be. -/
theorem printable_of_states {members : List (String × Datum)} {settings : List Setting}
    (states : States members settings)
    (each : ∀ setting ∈ settings,
      AllPrintable setting.name.toList ∧ setting.value.Printable) :
    (Datum.object members).Printable := by
  refine Datum.printable_object fun member stated => ?_
  obtain ⟨setting, among, rfl⟩ := states.mem stated
  exact each setting among

theorem StatedBy.printable {config : Config} {value : Datum} (stated : config.StatedBy value)
    (printable : config.Printable) : value.Printable := by
  simp only [Config.Printable, texts, List.forall_mem_cons] at printable
  obtain ⟨workingDirectory, endpoint, storageUser, storagePassword, bucket, region, host, user,
    password, virtualHost, exchange, topic, command, -⟩ := printable
  cases stated with
  | objects inStorage inMessaging inRunner states =>
      have storage := printable_of_states inStorage (by
        simp only [StorageConfig.members, List.forall_mem_cons]
        exact ⟨⟨by decide, Datum.printable_text endpoint⟩,
          ⟨by decide, Datum.printable_text storageUser⟩,
          ⟨by decide, Datum.printable_text storagePassword⟩,
          ⟨by decide, Datum.printable_text bucket⟩, ⟨by decide, Datum.printable_flag _⟩,
          ⟨by decide, Datum.printable_text region⟩, by simp⟩)
      have messaging := printable_of_states inMessaging (by
        simp only [MessagingConfig.members, List.forall_mem_cons]
        exact ⟨⟨by decide, Datum.printable_text host⟩, ⟨by decide, Datum.printable_word _⟩,
          ⟨by decide, Datum.printable_text user⟩, ⟨by decide, Datum.printable_text password⟩,
          ⟨by decide, Datum.printable_text virtualHost⟩, ⟨by decide, Datum.printable_text exchange⟩,
          ⟨by decide, Datum.printable_text topic⟩, ⟨by decide, Datum.printable_word _⟩, by simp⟩)
      have runner := printable_of_states inRunner (by
        simp only [Runner.members, List.forall_mem_cons]
        exact ⟨⟨by decide, Datum.printable_text command⟩, ⟨by decide, Datum.printable_flag _⟩,
          by simp⟩)
      refine printable_of_states states ?_
      simp only [members, List.forall_mem_cons]
      exact ⟨⟨by decide, Datum.printable_text workingDirectory⟩, ⟨by decide, Datum.printable_flag _⟩,
        ⟨by decide, storage⟩, ⟨by decide, messaging⟩, ⟨by decide, runner⟩, by simp⟩

/-- The configuration is read back from a JSON text of it. -/
theorem parse?_of_isText {config : Config} {text : String} (isText : config.IsText text)
    (printable : config.Printable) : parse? text = some config := by
  obtain ⟨value, stated, written⟩ := isText
  have plain := stated.printable printable
  have read := ofDocument?_of_statedBy stated
  cases stated
  rw [parse?, Document.parse?_of_isText written plain, Option.bind_some, read]

end Config
end Stagehand
