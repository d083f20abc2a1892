import C4Diagram.Text.Blank

/-!
The diagram that a new document starts with: the containers of a veterinary clinic's information
system, with a boundary, external systems and relations.
-/

namespace C4Diagram

def starterDiagram : Text :=
  "title [Containers] Veterinary clinic information system

Person(employee, \"Clinic employee\", \"Uses the clinic information system\")

System_Boundary(clinic_system, \"Veterinary clinic information system\") \x7b
  Container(web_app, \"Web application\", \"Java Spring\", \"Lets employees view and manage vets, clients and their pets\")
  ContainerDb(db, \"Clinic database\", \"Oracle Database 12c\", \"Stores vets, clinic clients and their pets\")
\x7d

System_Ext(unified_registry, \"Unified veterinary system\", \"Keeps the shared registry of animals and owners\")

Rel(employee, web_app, \"Uses\", \"HTTPS\")
Rel(web_app, db, \"Reads and writes\", \"JDBC\")
Rel(web_app, unified_registry, \"Sends vaccination records\", \"HTTPS/SOAP\")".toList

end C4Diagram
