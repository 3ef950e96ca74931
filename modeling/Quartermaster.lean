import Quartermaster.Broadcast
import Quartermaster.Main
import Quartermaster.Store.Column
import Quartermaster.Store.Layout
import Quartermaster.Proofs.Inversion
import Quartermaster.Proofs.Store.Tables
import Quartermaster.Proofs.Store.Columns
import Quartermaster.Proofs.Store.Sound
import Quartermaster.Proofs.Store.Written
import Quartermaster.Proofs.Store.Composed
import Quartermaster.Proofs.Custody.EquipmentStep
import Quartermaster.Proofs.Custody.AccessoryStep
import Quartermaster.Proofs.Custody.ConsumableStep
import Quartermaster.Proofs.DirectoryStep
import Quartermaster.Proofs.OperationStep
import Quartermaster.Proofs.Reachable
import Quartermaster.Proofs.Runs
import Quartermaster.Proofs.Commits
import Quartermaster.Proofs.Linked
import Quartermaster.Proofs.Past
import Quartermaster.Proofs.Aging
import Quartermaster.Proofs.Refusals.Operations
import Quartermaster.Proofs.OwnRoles
import Quartermaster.Proofs.LiveRoles
import Quartermaster.Proofs.Mediation.Equipment
import Quartermaster.Proofs.Mediation.Accessory
import Quartermaster.Proofs.Mediation.Consumable
import Quartermaster.Proofs.Mediation
import Quartermaster.Proofs.Coalition
import Quartermaster.Proofs.Custody.Backed
import Quartermaster.Proofs.Custody.LedgerSums
import Quartermaster.Proofs.Custody.Conservation
import Quartermaster.Proofs.Custody.AccessoryLedger
import Quartermaster.Proofs.Custody.EquipmentHistory
import Quartermaster.Proofs.Selection
import Quartermaster.Proofs.Visibility
import Quartermaster.Proofs.Bindings
import Quartermaster.Proofs.Coverage
import Quartermaster.Proofs.DeadBindings
import Quartermaster.Proofs.Representation
import Quartermaster.Proofs.Atomicity
import Quartermaster.Proofs.Http.Routes
import Quartermaster.Proofs.Http.Surface
import Quartermaster.Proofs.Lasting
import Quartermaster.Proofs.Phases
import Quartermaster.Proofs.Denials
import Quartermaster.Proofs.Traffic
import Quartermaster.Proofs.Custody.LifeCycle
import Quartermaster.Proofs.Mirror
import Quartermaster.Proofs.AuditTrail
import Quartermaster.Proofs.SelfService
import Quartermaster.Proofs.Deletion
import Quartermaster.Proofs.Independence.Blur
import Quartermaster.Proofs.Independence.Related
import Quartermaster.Proofs.Independence.Twins
import Quartermaster.Proofs.Independence.Outcomes
import Quartermaster.Proofs.Independence.Equipment
import Quartermaster.Proofs.Independence.Accessory
import Quartermaster.Proofs.Independence.Consumable
import Quartermaster.Proofs.Independence.Frame
import Quartermaster.Proofs.Independence
import Quartermaster.Proofs.Recipients
import Quartermaster.Proofs.Notices
import Quartermaster.Proofs.Relocation
import Quartermaster.Proofs.Views
import Quartermaster.Proofs.Answers
import Quartermaster.Proofs.Custody.Counts
import Quartermaster.Proofs.Custody.Portions
import Quartermaster.Proofs.Http.ChosenRole
import Quartermaster.Proofs.Store.Conflicts
import Quartermaster.Proofs.RoleAudit
import Quartermaster.Proofs.Http.Addresses
import Quartermaster.Proofs.Configuration
