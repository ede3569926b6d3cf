import Focalboard.Js.Text
import Focalboard.Js.Object
import Focalboard.Js.Uri
import Focalboard.Csv.Model
import Focalboard.Csv.Columns
import Focalboard.Csv.Table
import Focalboard.Csv.Export
import Focalboard.Csv.Parse
import Focalboard.Csv.Import
import Focalboard.Csv.RoundTrip
import Focalboard.Ai.Config
import Focalboard.Ai.Service
import Focalboard.Ai.Chatbot
import Focalboard.Ai.Context
import Focalboard.Notifications.Selector
