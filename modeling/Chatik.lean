import Chatik.Library.Runs
import Chatik.Library.Settling
import Chatik.Library.Observed
import Chatik.Library.Deliveries
import Chatik.Library.Simulation
import Chatik.Library.Sequences
import Chatik.Library.TableView
import Chatik.Library.Reuse
import Chatik.Library.ParentChain
import Chatik.Platform
import Chatik.Firestore.Documents
import Chatik.Model.ChatikAppModel
import Chatik.Services.FirebaseService
import Chatik.Services.AsyncOperation
import Chatik.Services.MainFileManager
import Chatik.Services.CoreDataService
import Chatik.Services.BackgroundSaves
import Chatik.Messaging.Snapshots
import Chatik.Messaging.Client
import Chatik.Messaging.Sends
import Chatik.Messaging.ConversationScreen
import Chatik.Messaging.Cells
import Chatik.Messaging.MessageTable
import Chatik.Messaging.CellReuse
import Chatik.Messaging.Listeners
import Chatik.Messaging.ConversationList
import Chatik.Messaging.Messenger
import Chatik.Messaging.StoredDocuments
import Chatik.Messaging.MessengerClient
import Chatik.Messaging.Ownership
import Chatik.Messaging.Copies
import Chatik.Messaging.Convergence
import Chatik.Messaging.Quiescence
import Chatik.Messaging.Custody
import Chatik.Messaging.Provenance
import Chatik.Messaging.Activity
import Chatik.Profile.TextInput
import Chatik.Profile.Screen
import Chatik.Profile.Saves
import Chatik.Profile.SaveProcesses
import Chatik.Profile.ProfileApp
import Chatik.Profile.SaveEquivalence
import Chatik.Profile.SaveOrder
import Chatik.Profile.Sessions
import Chatik.Profile.SaveOutcomes
import Chatik.Profile.Edits
import Chatik.Profile.Controls
import Chatik.Profile.Loads
import Chatik.Profile.Progress
import Chatik.Themes.ThemeCell
import Chatik.Themes.ThemesScreen
